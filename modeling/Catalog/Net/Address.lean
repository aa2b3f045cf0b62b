import Catalog.Text.Blank
import Catalog.Text.Case
import Catalog.Text.Digits

/-!
Addresses of the web and of databases, and the one text under which an address is shown.
-/
namespace Catalog.Net

structure Address where
  scheme : String
  /-- User, host and socket as they are shown, if there is a host. -/
  authority : Option String
  path : String
  /-- What follows the path, with its leading mark. -/
  query : String
  fragment : String
  deriving DecidableEq, Repr

inductive AddressFault where
  | noScheme
  | noHost
  | badHost
  | badSocket
  deriving DecidableEq, Repr

def AddressFault.message : AddressFault → String
  | .noScheme => "relative URL without a base"
  | .noHost => "empty host"
  | .badHost => "invalid international domain name"
  | .badSocket => "invalid port number"

namespace Address

/-- Schemes that always name a host, with the socket they use. -/
def hosted : List (String × Nat) :=
  [("http", 80), ("https", 443), ("ws", 80), ("wss", 443), ("ftp", 21)]

def text (a : Address) : String :=
  a.scheme ++ ":" ++ (match a.authority with
    | some authority => "//" ++ authority
    | none => "") ++ a.path ++ a.query ++ a.fragment

def isWeb (a : Address) : Bool := a.scheme == "http" || a.scheme == "https"

def hexDigit (n : Nat) : Char := ((Nat.toDigits 16 n).head?.getD '0').toUpper

def percentByte (b : UInt8) : List Char := ['%', hexDigit (b.toNat / 16), hexDigit (b.toNat % 16)]

/-- Writes control characters, characters beyond ASCII and the given ones by their bytes. -/
def percent (others : List Char) (cs : List Char) : List Char :=
  cs.flatMap fun c =>
    if c.toNat < 0x21 || 0x7E < c.toNat || others.contains c then
      (String.ofList [c]).toUTF8.toList.flatMap percentByte
    else [c]

def isSchemeChar (c : Char) : Bool :=
  Text.isAsciiAlphanumeric c || c == '+' || c == '-' || c == '.'

def scheme? (cs : List Char) : Option (List Char × List Char) := do
  let (name, rest) ← Text.splitOnce ':' cs
  if name.all isSchemeChar && (name.head?.any Text.isAsciiLetter) then
    some (name.map Text.asciiLower, rest)
  else none

/-- Blanks and control characters around an address do not count, nor line breaks and tabs in it. -/
def cleaned (cs : List Char) : List Char :=
  let drop (cs : List Char) := cs.dropWhile fun c => c.toNat ≤ 0x20
  (drop (drop cs).reverse).reverse.filter fun c => c != '\t' && c != '\n' && c != '\r'

/-- Characters that no host name contains. -/
def isForbidden (c : Char) : Bool := c.toNat ≤ 0x20 || "#%/:<>?@[\\]^|".toList.contains c

/-- What stands before and after the last separator, if there is one. -/
def splitLast (sep : Char) (cs : List Char) : Option (List Char × List Char) :=
  (Text.splitOnce sep cs.reverse).map fun (after, before) => (before.reverse, after.reverse)

/-- Cuts a socket off a host; a colon within brackets belongs to the host. -/
def cutSocket (cs : List Char) : List Char × Option (List Char) :=
  match splitLast ':' cs with
  | some (host, socket) => if socket.contains ']' then (cs, none) else (host, some socket)
  | none => (cs, none)

/-- A socket as it is shown: not at all if it is the usual one. -/
def socket (usual : Option Nat) : Option (List Char) → Except AddressFault String
  | none => .ok ""
  | some [] => .ok ""
  | some cs =>
    match Text.decimal? cs with
    | some n =>
      if 65535 < n then .error .badSocket
      else .ok (if usual == some n then "" else ":" ++ toString n)
    | none => .error .badSocket

def host (required : Bool) (cs : List Char) : Except AddressFault String :=
  if cs.isEmpty then if required then .error .noHost else .ok ""
  else if cs.head? == some '[' then
    if cs.getLast? == some ']' then .ok (String.ofList (cs.map Text.asciiLower))
    else .error .badHost
  else if cs.any isForbidden then .error .badHost
  else .ok (String.ofList (if required then cs.map Text.asciiLower else cs))

def place (usual : Option Nat) (cs : List Char) : Except AddressFault String := do
  let reserved := ['/', ';', '=', '@', '[', ']']
  let (user, site) := match splitLast '@' cs with
    | some (user, site) => (String.ofList (percent reserved user) ++ "@", site)
    | none => ("", cs)
  let (name, number) := cutSocket site
  let required := usual.isSome || user != "" || number.isSome
  let name ← host required name
  let number ← socket usual number
  .ok (user ++ name ++ number)

/-- The parts of a path without single dots, double dots taking one part back. -/
def undotted (done : List (List Char)) : List (List Char) → List (List Char)
  | [] => done.reverse
  | part :: rest =>
    let last := rest.isEmpty
    if part == ['.'] then undotted (if last then [] :: done else done) rest
    else if part == ['.', '.'] then
      undotted (if last then [] :: done.tail else done.tail) rest
    else undotted (part :: done) rest

/-- A path as it is shown; under a host it begins with a slash. -/
def shownPath (rooted : Bool) (cs : List Char) : String :=
  let encoded := percent ['"', '#', '<', '>', '?', '`', '{', '}'] cs
  if rooted then
    let parts := match Text.splitAt '/' encoded with
      | [] :: parts => parts
      | parts => parts
    "/" ++ "/".intercalate ((undotted [] parts).map String.ofList)
  else String.ofList encoded

def read (s : String) : Except AddressFault Address := do
  match scheme? (cleaned s.toList) with
  | none => .error .noScheme
  | some (name, rest) =>
    let scheme := String.ofList name
    let usual := hosted.lookup scheme
    let isSlash (c : Char) : Bool := c == '/' || (usual.isSome && c == '\\')
    let (rest, fragment) := match Text.splitOnce '#' rest with
      | some (rest, after) => (rest, '#' :: percent ['"', '<', '>', '`'] after)
      | none => (rest, [])
    let (rest, query) := match Text.splitOnce '?' rest with
      | some (rest, after) => (rest, '?' :: percent ['"', '#', '<', '>', '\''] after)
      | none => (rest, [])
    let hasHost := usual.isSome || rest.take 2 == ['/', '/']
    let shown (site : Option String) (path : String) : Address :=
      ⟨scheme, site, path, String.ofList query, String.ofList fragment⟩
    if hasHost then
      let rest := if usual.isSome then rest.dropWhile isSlash else rest.drop 2
      let site ← place usual (rest.takeWhile fun c => !isSlash c)
      let path := (rest.dropWhile fun c => !isSlash c).map fun c => if isSlash c then '/' else c
      .ok (shown (some site) (if path.isEmpty && usual.isNone then "" else shownPath true path))
    else .ok (shown none (shownPath (rest.head? == some '/') rest))

end Address

end Catalog.Net
