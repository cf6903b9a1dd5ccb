import HttpTap.Fault
import HttpTap.Text.Letter

/-!
# The path of an address

A span is named after the path of the address that a request goes to.  An address is cut in the
usual way: a scheme before the first colon if it is made of the letters of schemes, an authority
after two slashes, then the path up to the query or the fragment.  Blanks in front and line
breaks anywhere are dropped first.  In the schemes that have them, the parameters of the last
segment of the path are cut off as well.

Two kinds of authority are refused: brackets that do not hold an address of the sixth version of
the protocol, or that have something else around them than a user in front and a port behind; and
characters that would turn into a delimiter when they are normalized.
-/

namespace HttpTap
namespace Address

/-- The part before the first occurrence of a character, and the part after it if there is one. -/
def splitFirst (c : Char) (cs : List Char) : List Char × Option (List Char) :=
  match cs.dropWhile (· != c) with
  | [] => (cs, none)
  | _ :: rest => (cs.takeWhile (· != c), some rest)

/-- Cut a list at every occurrence of a character. -/
def splitEach (c : Char) : List Char → List (List Char)
  | [] => [[]]
  | d :: ds =>
    match splitEach c ds with
    | [] => [[d]]
    | p :: ps => if d == c then [] :: p :: ps else (d :: p) :: ps

/-! ## Numeric hosts -/

/-- Is the character a digit of base sixteen? -/
def isHex (c : Char) : Bool :=
  ('0' ≤ c && c ≤ '9') || ('a' ≤ c && c ≤ 'f') || ('A' ≤ c && c ≤ 'F')

/-- One of the four numbers of an address of the fourth version: up to three digits, no leading
zero, below 256. -/
def isOctet (cs : List Char) : Bool :=
  !cs.isEmpty && cs.length ≤ 3 && cs.all (fun c => '0' ≤ c && c ≤ '9') &&
    (cs.length == 1 || cs.head? != some '0') &&
    cs.foldl (fun n c => n * 10 + (c.toNat - '0'.toNat)) 0 < 256

/-- An address of the fourth version. -/
def isFourthVersion (cs : List Char) : Bool :=
  let parts := splitEach '.' cs
  parts.length == 4 && parts.all isOctet

/-- One of the groups of an address of the sixth version. -/
def isGroup (cs : List Char) : Bool := !cs.isEmpty && cs.length ≤ 4 && cs.all isHex

/-- The groups, where a tail in the form of the fourth version counts as two. -/
def expandTail (parts : List (List Char)) : Option (List (List Char)) :=
  match parts.getLast? with
  | some last =>
    if last.contains '.' then
      if isFourthVersion last then some (parts.dropLast ++ [['0'], ['0']]) else none
    else some parts
  | none => none

/-- Eight groups, or fewer with one gap marked by an empty group; a gap at an end is marked by
two empty groups there. -/
def areGroups (parts : List (List Char)) : Bool :=
  let inner := (parts.drop 1).dropLast
  match inner.findIdx? List.isEmpty with
  | some i =>
    let high := parts.take (i + 1)
    let low := parts.drop (i + 2)
    let high := if high == [[]] then some [] else if high.head? == some [] then none else some high
    let low := if low == [[]] then some [] else if low.getLast? == some [] then none else some low
    match high, low with
    | some high, some low =>
      (inner.filter List.isEmpty).length == 1 && high.length + low.length < 8 &&
        high.all isGroup && low.all isGroup
    | _, _ => false
  | none => parts.length == 8 && parts.all isGroup

/-- An address of the sixth version, perhaps with a zone after a percent sign. -/
def isSixthVersion (cs : List Char) : Bool :=
  let (address, zone) := splitFirst '%' cs
  let zoneOk := match zone with
    | none => true
    | some z => !z.isEmpty && !z.contains '%'
  let parts := splitEach ':' address
  zoneOk && !cs.contains '/' && 3 ≤ parts.length &&
    match expandTail parts with
    | some parts => parts.length ≤ 9 && areGroups parts
    | none => false

/-- What may stand in brackets: an address of the sixth version, or one of a version to come. -/
def isBracketed (cs : List Char) : Bool :=
  match cs with
  | 'v' :: rest =>
    match splitFirst '.' rest with
    | (version, some address) =>
      !version.isEmpty && version.all isHex && !address.isEmpty
    | (_, none) => false
  | cs => isSixthVersion cs

/-! ## Authorities -/

/-- The characters outside ASCII that normalize to something with a delimiter in it. -/
def disguisedDelimiters : List Nat :=
  [0x2047, 0x2048, 0x2049, 0x2100, 0x2101, 0x2105, 0x2106, 0x2A74, 0xFE13, 0xFE16, 0xFE55,
   0xFE56, 0xFE5F, 0xFE6B, 0xFF03, 0xFF0F, 0xFF1A, 0xFF1F, 0xFF20]

/-- The host of an authority in which there are brackets.  It stands behind the user, and if it is in
brackets itself they begin the place and only a port may follow them. -/
def bracketedHost? (cs : List Char) : Option (List Char) :=
  let place := (splitEach '@' cs).getLast?.getD cs
  match splitFirst '[' place with
  | (before, some rest) =>
    let (host, behind) := splitFirst ']' rest
    let port := behind.getD []
    if before.isEmpty && (port.isEmpty || port.head? == some ':') then some host else none
  | (_, none) => some (splitFirst ':' place).1

/-- Is the authority one that can be worked with? -/
def isAuthority (cs : List Char) : Bool :=
  let opens := cs.contains '['
  let closes := cs.contains ']'
  (opens == closes) && (!opens || (bracketedHost? cs).any isBracketed) &&
    !cs.any fun c => disguisedDelimiters.contains c.toNat

/-! ## The path -/

/-- The letters of schemes. -/
def isSchemeChar (c : Char) : Bool :=
  c.isAlphanum || c == '+' || c == '-' || c == '.'

/-- The schemes whose last segment may have parameters. -/
def parameterSchemes : List String :=
  ["", "ftp", "hdl", "prospero", "http", "imap", "https", "shttp", "rtsp", "rtsps", "rtspu",
   "sip", "sips", "mms", "sftp", "tel"]

/-- The scheme of an address in small letters, and what follows it. -/
def splitScheme (cs : List Char) : String × List Char :=
  match splitFirst ':' cs with
  | (c :: scheme, some rest) =>
    if c.isAlpha && (c :: scheme).all isSchemeChar then
      (String.ofList ((c :: scheme).map Char.toLower), rest)
    else ("", cs)
  | _ => ("", cs)

/-- The authority of an address without its scheme, and what follows it. -/
def splitAuthority : List Char → List Char × List Char
  | '/' :: '/' :: cs =>
    let inside := fun c : Char => c != '/' && c != '?' && c != '#'
    (cs.takeWhile inside, cs.dropWhile inside)
  | cs => ([], cs)

/-- A path without the parameters of its last segment. -/
def dropParameters (cs : List Char) : List Char :=
  let last := (cs.reverse.takeWhile (· != '/')).reverse
  let before := cs.take (cs.length - last.length)
  before ++ (splitFirst ';' last).1

/-- The path of an address. -/
def path (url : String) : Except Fault String :=
  let cs := url.toList.dropWhile fun c => c.toNat ≤ 0x20
  let cs := cs.filter fun c => c != '\t' && c != '\n' && c != '\r'
  let (scheme, rest) := splitScheme cs
  let (authority, rest) := splitAuthority rest
  if isAuthority authority then
    let path := (splitFirst '?' (splitFirst '#' rest).1).1
    .ok (String.ofList (if parameterSchemes.contains scheme then dropParameters path else path))
  else .error (.misuse .value "Invalid IPv6 URL")

example : (path "http://h/a;p/b;q?x#y").toOption = some "/a;p/b" := by decide +kernel

/-- Nothing may stand between the user and the brackets. -/
example : isAuthority "me@[::1]:80".toList ∧ ¬ isAuthority "x[::1]".toList ∧
    ¬ isAuthority "[::1]x".toList := by
  decide +kernel

example : isSixthVersion "::1".toList ∧ isSixthVersion "1::".toList ∧
    ¬ isSixthVersion ":1::2".toList ∧ isSixthVersion "::ffff:1.2.3.4".toList := by
  decide +kernel

end Address
end HttpTap
