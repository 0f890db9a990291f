/-
Module: StudyDesk.Url.Basic
Purpose: Web addresses, taken apart, and their written form.
Main exports:
  Url, Url.text, Url.target, Url.defaultPort
-/
import StudyDesk.Url.Host

namespace StudyDesk

/-- A web address.  Its parts are kept as they are written out, percent-encoded where they have to
be; a port that is the scheme's own is not kept. -/
structure Url where
  /-- Whether the scheme is the encrypted one. -/
  secure : Bool
  userName : List Char
  password : List Char
  host : Host
  port : Option Nat
  /-- The path, with its leading slash. -/
  path : List Char
  query : Option (List Char)
  fragment : Option (List Char)
deriving DecidableEq, Repr

namespace Url

/-- The name of the scheme. -/
def schemeName (secure : Bool) : List Char :=
  ['h', 't', 't', 'p'] ++ if secure then ['s'] else []

/-- The port of the scheme. -/
def defaultPort (secure : Bool) : Nat := if secure then 443 else 80

/-- User name and password before the host, if there are any. -/
def userInfoText (url : Url) : List Char :=
  if url.userName.isEmpty && url.password.isEmpty then []
  else url.userName ++ (if url.password.isEmpty then [] else ':' :: url.password) ++ ['@']

/-- A part that is there or not, after its mark. -/
def marked (mark : Char) : Option (List Char) → List Char
  | some part => mark :: part
  | none => []

/-- Scheme, authority and path with the query. -/
def textWithoutFragment (url : Url) : List Char :=
  schemeName url.secure ++ [':', '/', '/'] ++ url.userInfoText ++ url.host.text ++
    marked ':' (url.port.map Layout.digitsOf) ++ url.path ++ marked '?' url.query

/-- The written form of an address. -/
def text (url : Url) : List Char :=
  url.textWithoutFragment ++ marked '#' url.fragment

/-- What a request for the address names: path and query. -/
def target (url : Url) : List Char := url.path ++ marked '?' url.query

end Url

end StudyDesk
