import IndexAdvisor.Text.Hex

/-! # Routes

What an address asks for. Its path may hold escaped bytes; together they are read as text. Bars
at the end of a path do not matter.
-/

namespace IndexAdvisor.Service

/-! ## Escaped paths -/

/-- The bytes of a path in which escapes are undone. A percent sign before anything but two
    digits stands for itself. -/
def unescape : List Char → List UInt8
  | '%' :: a :: b :: rest =>
    match Text.hexByte? a b with
    | some byte => byte :: unescape rest
    | none => 0x25 :: unescape (a :: b :: rest)
  | c :: rest => (String.singleton c).toUTF8.toList ++ unescape rest
  | [] => []

/-- The number of bytes after a first byte, its bits, and the range of the byte after it. -/
def leadOf (byte : Nat) : Option (Nat × Nat × Nat × Nat) :=
  if byte < 0x80 then some (0, byte, 0x80, 0xbf)
  else if 0xc2 ≤ byte ∧ byte ≤ 0xdf then some (1, byte - 0xc0, 0x80, 0xbf)
  else if byte = 0xe0 then some (2, 0, 0xa0, 0xbf)
  else if byte = 0xed then some (2, 0xd, 0x80, 0x9f)
  else if 0xe1 ≤ byte ∧ byte ≤ 0xef then some (2, byte - 0xe0, 0x80, 0xbf)
  else if byte = 0xf0 then some (3, 0, 0x90, 0xbf)
  else if byte = 0xf4 then some (3, 4, 0x80, 0x8f)
  else if 0xf1 ≤ byte ∧ byte ≤ 0xf3 then some (3, byte - 0xf0, 0x80, 0xbf)
  else none

/-- The character that is written for bytes that write none. -/
def unknownChar : Char := Char.ofNat 0xfffd

/-- What is still to come of a character: how many bytes, the bits so far, and the range of the
    next byte. -/
structure Pending where
  left : Nat
  bits : Nat
  low : Nat
  high : Nat

/-- Whether a byte goes on with a character. -/
def Pending.takes (pending : Pending) (byte : Nat) : Bool :=
  decide (pending.low ≤ byte ∧ byte ≤ pending.high)

/-- What begins with a byte: characters that are complete, and one that is pending. -/
def beginning (byte : Nat) : List Char × Option Pending :=
  match leadOf byte with
  | none => ([unknownChar], none)
  | some (0, bits, _, _) => ([Char.ofNat bits], none)
  | some (left, bits, low, high) => ([], some ⟨left, bits, low, high⟩)

/-- The text that bytes write, after a pending character. -/
def decodeFrom (pending : Option Pending) : List UInt8 → List Char
  | [] => if pending.isSome then [unknownChar] else []
  | byte :: rest =>
    let n := byte.toNat
    match pending with
    | none =>
      let (complete, pending) := beginning n
      complete ++ decodeFrom pending rest
    | some p =>
      if p.takes n then
        let bits := 64 * p.bits + (n - 0x80)
        if p.left ≤ 1 then Char.ofNat bits :: decodeFrom none rest
        else decodeFrom (some ⟨p.left - 1, bits, 0x80, 0xbf⟩) rest
      else
        let (complete, pending) := beginning n
        unknownChar :: complete ++ decodeFrom pending rest

/-- The text of a path in which escapes are undone. -/
def decode (path : List Char) : List Char :=
  decodeFrom none (unescape path)

/-! ## Addresses

Who asks writes an address: a path, perhaps after a scheme and a host. From it the path that is
asked for is made out before the request is sent.
-/

/-- An address without the scheme before a colon, and whether there is one. -/
def dropScheme (cs : List Char) : Bool × List Char :=
  let name := cs.takeWhile fun c => c.isAlphanum || c = '+' || c = '.' || c = '-'
  match cs.drop name.length with
  | ':' :: rest =>
    if name.head?.all Char.isAlpha then (!name.isEmpty, rest) else (false, cs)
  | _ => (false, cs)

/-- An address without the host after two bars, and whether there is one. -/
def dropHost : List Char → Bool × List Char
  | '/' :: '/' :: rest => (rest.head?.any (· ≠ '/'), rest.dropWhile (· ≠ '/'))
  | cs => (false, cs)

/-- The names of a path where those for the same and for the upper place are followed, the latest
    name first. Nothing lies above the first. -/
def followNames (before : List (List Char)) : List (List Char) → List (List Char)
  | [] => before
  | name :: rest =>
    if name = ['.'] then followNames before rest
    else if name = ['.', '.'] then
      followNames (if before = [[]] then before else before.drop 1) rest
    else followNames (name :: before) rest

/-- The parts of a path between bars. -/
def splitPath (path : List Char) : List (List Char) :=
  ((String.ofList path).splitOn "/").map String.toList

def pathOf (address : List Char) : List Char :=
  let (hasScheme, cs) := dropScheme (address.takeWhile fun c => c ≠ '?' && c ≠ '#')
  let (hasHost, cs) := dropHost cs
  let path := if hasScheme && hasHost && !cs.isEmpty then cs else '/' :: cs.dropWhile (· = '/')
  ['/'].intercalate (followNames [] (splitPath path)).reverse

/-! ## Routes -/

inductive Route where
  | health
  | analyse
  | table (name : String)
  deriving DecidableEq, Repr

def Route.method : Route → String
  | .analyse => "POST"
  | .health | .table _ => "GET"

def routeAt? (path : List Char) : Option Route :=
  if path = "/health".toList then some .health
  else if path = "/analyse".toList then some .analyse
  else
    let start := "/tables/".toList
    let name := path.drop start.length
    if start.isPrefixOf path && !name.isEmpty && !name.contains '/' then
      some (.table (String.ofList name))
    else none

/-- The route of an address, from which the client is led on at most `leads` times: where a path
    leads nowhere, bars at its end are left out. Escapes are undone twice, on the way and at the
    end of it. -/
def routeFrom? : Nat → List Char → Option Route
  | 0, _ => none
  | leads + 1, address =>
    let path := decode (decode (pathOf address))
    match routeAt? path with
    | some route => some route
    | none =>
      let shorter := (path.reverse.dropWhile (· = '/')).reverse
      if (routeAt? shorter).isSome then routeFrom? leads shorter else none

def routeOf? (address : String) : Option Route :=
  routeFrom? 20 address.toList

end IndexAdvisor.Service
