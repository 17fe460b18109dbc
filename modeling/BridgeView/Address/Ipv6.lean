import BridgeView.Address.Ipv4

/-!
# IPv6 addresses

An address of eight groups of sixteen bits.  In writing, groups are hexadecimal and
stand between colons; the longest run of at least two zero groups, the first of
several, is left out between two colons; an address that maps an IPv4 address ends
in the written form of that address.  What is read is more liberal: the last two
groups of any address may be an IPv4 address, a group has up to four digits in
either case, and the two colons may stand for any number of zero groups.
-/

namespace BridgeView

/-- An address of eight groups of sixteen bits. -/
structure Ipv6Address where
  groups : List UInt16
  /-- There are eight groups. -/
  length_groups : groups.length = 8
deriving DecidableEq, Repr

namespace Ipv6Address

/-- The address whose groups are all zero. -/
instance : Inhabited Ipv6Address := ⟨⟨List.replicate 8 0, rfl⟩⟩

/-- The octets of the address, each group with its more significant octet first. -/
def toOctets (address : Ipv6Address) : Octets :=
  address.groups.flatMap Octets.ofWord16BigEndian

/-- The groups that octets hold, pair by pair. -/
def groupsOf : Octets → List UInt16
  | high :: low :: rest => Octets.word16 low high :: groupsOf rest
  | _ => []

theorem length_groupsOf {octets : Octets} {count : Nat} (size : octets.length = 2 * count) :
    (groupsOf octets).length = count := by
  induction count generalizing octets with
  | zero =>
    rw [List.length_eq_zero_iff.mp size]
    rfl
  | succ count ih =>
    match octets, size with
    | _ :: _ :: rest, size =>
      simp only [List.length_cons] at size
      simp only [groupsOf, List.length_cons, ih (show rest.length = 2 * count by omega)]

theorem groupsOf_flatMap (groups : List UInt16) :
    groupsOf (groups.flatMap Octets.ofWord16BigEndian) = groups := by
  induction groups with
  | nil => rfl
  | cons group later ih => simp [groupsOf, Octets.ofWord16BigEndian, ih]

theorem length_toOctets (address : Ipv6Address) : address.toOctets.length = 16 := by
  simp [toOctets, List.length_flatMap, List.map_const', address.length_groups]

/-- The address that sixteen octets hold. -/
def ofOctets (octets : Octets) (size : octets.length = 16) : Ipv6Address :=
  ⟨groupsOf octets, length_groupsOf (by omega)⟩

/-- Groups in hexadecimal, with colons between them. -/
def groupsText : List UInt16 → List Char
  | [] => []
  | [group] => Text.hexDigits group.toNat
  | group :: rest => Text.hexDigits group.toNat ++ ':' :: groupsText rest

/-- The number of zero groups at the front. -/
def leadingZeros (groups : List UInt16) : Nat :=
  (groups.takeWhile (· == 0)).length

/-- Start and length of the longest run of zero groups, the first of several. -/
def longestZeroRun (groups : List UInt16) : Nat × Nat :=
  (List.range groups.length).foldl
    (fun best start =>
      let length := leadingZeros (groups.drop start)
      if best.2 < length then (start, length) else best)
    (0, 0)

/-- The IPv4 address that the address maps, if it is of that form. -/
def mapped? (address : Ipv6Address) : Option Ipv4Address :=
  match address.groups with
  | [0, 0, 0, 0, 0, 0xffff, high, low] =>
    some ⟨UInt8.ofNat (high.toNat / 256), high.toUInt8, UInt8.ofNat (low.toNat / 256),
      low.toUInt8⟩
  | _ => none

/-- The written form of the address. -/
def toText (address : Ipv6Address) : List Char :=
  match address.mapped? with
  | some ipv4 => [':', ':', 'f', 'f', 'f', 'f', ':'] ++ ipv4.toText
  | none =>
    let (start, length) := longestZeroRun address.groups
    if 1 < length then
      groupsText (address.groups.take start) ++ [':', ':']
        ++ groupsText (address.groups.drop (start + length))
    else groupsText address.groups

/-- The hexadecimal numeral of up to four digits at the front of a text and what follows
its digits. -/
def readGroup (text : List Char) : Option (UInt16 × List Char) :=
  let digits := text.takeWhile fun character => (Text.digitValue? 16 character).isSome
  if digits.length = 0 ∨ 4 < digits.length then none
  else
    match Text.digitsValue? 16 0 digits with
    | none => none
    | some value => some (UInt16.ofNat value, text.drop digits.length)

/-- What groups were read: the groups, whether the last two came from an IPv4 address, and
the rest of the text. -/
structure ReadGroups where
  groups : List UInt16
  /-- Whether the last two came from an IPv4 address. -/
  endsInIpv4 : Bool
  rest : List Char

/-- Reads as many groups as there is room for, with colons between them.  An IPv4 address
counts as two groups and is the last of them. -/
def readGroups : Nat → Bool → List Char → ReadGroups
  | 0, _, text => ⟨[], false, text⟩
  | room + 1, isFirst, text =>
    match if isFirst then some text else Ipv4Address.skip ':' text with
    | none => ⟨[], false, text⟩
    | some body =>
      match if room = 0 then none else Ipv4Address.read body with
      | some (ipv4, rest) =>
        ⟨groupsOf ipv4.toOctets, true, rest⟩
      | none =>
        match readGroup body with
        | none => ⟨[], false, text⟩
        | some (group, rest) =>
          let more := readGroups room false rest
          { more with groups := group :: more.groups }

/-- The address with the given groups at its two ends and zero groups between them. -/
def ofEnds? (front back : List UInt16) : Option Ipv6Address :=
  if fits : front.length + back.length ≤ 8 then
    some ⟨front ++ List.replicate (8 - front.length - back.length) 0 ++ back,
      by simp; omega⟩
  else none

/-- The address at the front of a text and what follows it. -/
def read (text : List Char) : Option (Ipv6Address × List Char) :=
  let front := readGroups 8 true text
  if front.groups.length = 8 then
    (ofEnds? front.groups []).map (·, front.rest)
  else if front.endsInIpv4 then none
  else do
    let rest ← Ipv4Address.skip ':' (← Ipv4Address.skip ':' front.rest)
    let back := readGroups (7 - front.groups.length) true rest
    let address ← ofEnds? front.groups back.groups
    return (address, back.rest)

end Ipv6Address

end BridgeView
