import SwaggerCmdlets.Url.Host

/-! # Addresses — the parts of an address and its text

    An address has a scheme, perhaps an authority, a path, and perhaps a query
    and a fragment.  Its text is the parts one after the other; the text before
    the path is the base that generated calls are sent to.

    A path without authority that starts with two slashes would be taken for an
    authority, so that `/.` is written before it (`guarded`). -/

namespace SwaggerCmdlets

/-- Who is addressed: credentials, host and port.  A missing host is written as
    nothing at all. -/
structure Url.Authority where
  user : String
  password : String
  host : Option Url.Host
  port : Option Nat
deriving DecidableEq, Repr

/-- An address. -/
structure Url where
  scheme : String
  authority : Option Url.Authority
  guarded : Bool
  path : String
  query : Option String
  fragment : Option String
deriving DecidableEq, Repr

namespace Url

/-- The credentials as they stand before the host. -/
def Authority.credentials (a : Authority) : String :=
  if a.user = "" ∧ a.password = "" then ""
  else a.user ++ (if a.password = "" then "" else ":" ++ a.password) ++ "@"

/-- The host, and the port if it is written. -/
def Authority.place (a : Authority) : String :=
  (a.host.elim "" Host.text) ++ (a.port.elim "" fun p => ":" ++ toString p)

/-- The authority after its two slashes. -/
def Authority.text (a : Authority) : String := a.credentials ++ a.place

/-- The text of an address before its path. -/
def origin (u : Url) : String :=
  u.scheme ++ ":" ++ (u.authority.elim "" fun a => "//" ++ a.text)
    ++ (if u.guarded then "/." else "")

/-- The text of an address. -/
def text (u : Url) : String :=
  u.origin ++ u.path ++ (u.query.elim "" ("?" ++ ·)) ++ (u.fragment.elim "" ("#" ++ ·))

/-- Whether documents of the scheme are fetched over the network. -/
def isWeb (u : Url) : Bool := u.scheme == "http" || u.scheme == "https"

/-- Whether the path is no row of segments: nothing stands before it and it does
    not start with a slash. -/
def isOpaque (u : Url) : Bool :=
  u.authority.isNone && !u.guarded && u.path.toList.head? != some '/'

/-- How a scheme lays out its addresses. -/
inductive SchemeKind where
  | file
  | special
  | other
deriving DecidableEq, Repr

/-- The kind of a scheme. -/
def SchemeKind.of (scheme : String) : SchemeKind :=
  if scheme = "file" then .file
  else if ["http", "https", "ws", "wss", "ftp"].contains scheme then .special
  else .other

/-- Whether backslashes count as slashes. -/
def SchemeKind.isSpecial (k : SchemeKind) : Bool := k != .other

/-- The port that need not be written. -/
def defaultPort? (scheme : String) : Option Nat :=
  match scheme with
  | "http" | "ws" => some 80
  | "https" | "wss" => some 443
  | "ftp" => some 21
  | _ => none

end Url

end SwaggerCmdlets
