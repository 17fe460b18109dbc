import BridgeView.Address.Group
import BridgeView.Proofs.Address.Ipv6

/-!
# Group addresses that are read back

A text is tried as an address of four octets, then as one of eight groups, and only then as one of
the link layer. Every address is nevertheless read back from what it is written as: only an address
of four octets starts with a decimal numeral and a point, and the six octets of a link layer address
are too few groups for one of eight (`ofText_toText`).
-/

namespace BridgeView

open Text

namespace MacAddress

theorem parts_of_not_mem {part : List Char} (noColon : ':' ∉ part) : parts part = [part] := by
  induction part with
  | nil => rfl
  | cons character rest ih =>
      rw [List.mem_cons, not_or] at noColon
      rw [parts, if_neg (Ne.symm noColon.1), ih noColon.2]

theorem parts_append_colon {part : List Char} (noColon : ':' ∉ part) (rest : List Char) :
    parts (part ++ ':' :: rest) = part :: parts rest := by
  induction part with
  | nil => simp [parts]
  | cons character part ih =>
      rw [List.mem_cons, not_or] at noColon
      rw [List.cons_append, parts, if_neg (Ne.symm noColon.1), ih noColon.2]

/-- Parts without colons are found again between the colons. -/
theorem parts_joinParts {joined : List (List Char)} (notEmpty : joined ≠ [])
    (noColon : ∀ part ∈ joined, ':' ∉ part) : parts (joinParts joined) = joined := by
  induction joined with
  | nil => exact absurd rfl notEmpty
  | cons part later ih =>
      rw [List.forall_mem_cons] at noColon
      cases later with
      | nil => exact parts_of_not_mem noColon.1
      | cons next later =>
          rw [joinParts, parts_append_colon noColon.1, ih (List.cons_ne_nil _ _) noColon.2]
          exact List.cons_ne_nil _ _

variable (address : MacAddress)

theorem spell_octets :
    List.Forall₂ Ipv6Address.Spells (address.octets.map hexOctet)
      (address.octets.map UInt8.toUInt16) := by
  rw [List.forall₂_map_left_iff, List.forall₂_map_right_iff, List.forall₂_same]
  exact fun octet _ => Ipv6Address.spells_hexOctet octet

/-- The text of an address is read as that address. -/
theorem ofText?_toText : ofText? address.toText = some address := by
  have notEmpty : address.octets.map hexOctet ≠ [] := by
    apply List.ne_nil_of_length_pos
    rw [List.length_map, address.length_octets]
    omega
  have noColon : ∀ part ∈ address.octets.map hexOctet, ':' ∉ part := by
    rw [List.forall_mem_map]
    exact fun octet _ => (Ipv6Address.spells_hexOctet octet).not_mem rfl
  have value (octet : UInt8) : numeral? 16 255 (hexOctet octet) = some octet.toNat := by
    have bound := octet.toNat_lt
    exact numeral?_of_digits (digitsValue?_hexOctet octet) (by simp [hexOctet]) (by omega)
  have values : (address.octets.map hexOctet).mapM (numeral? 16 255)
      = some (address.octets.map UInt8.toNat) := by
    have values : numeral? 16 255 ∘ hexOctet = fun octet => pure octet.toNat := funext value
    rw [List.mapM_map, values]
    exact List.mapM_pure
  rcases address with ⟨octets, isSix⟩
  simp only at values notEmpty noColon
  have same : UInt8.ofNat ∘ UInt8.toNat = id := funext fun _ => UInt8.ofNat_toNat
  simp only [ofText?, toText, parts_joinParts notEmpty noColon, values, List.length_map, isSix]
  simp [same]

theorem read_toText_eq_none : Ipv6Address.read address.toText = none := by
  have few : (address.octets.map hexOctet).length ≤ 8 := by simp [address.length_octets]
  have front := Ipv6Address.readGroups_joinParts address.spell_octets Ipv6Address.stops_nil few
  rw [List.append_nil, ← toText] at front
  simp [Ipv6Address.read, front, address.length_octets, Ipv4Address.skip]

end MacAddress

namespace Ipv6Address

/-- No text of an address of version six is read as one of version four. -/
theorem Written.not_ipv4 {address : Ipv6Address} {text : List Char}
    (written : address.Written text) : Ipv4Address.read text = none := by
  cases written with
  | mapped maps => exact Ipv4Address.read_of_startsNoDigit (startsNoDigit_cons rfl _)
  | @shortened front back length notMapped groups_eq several chosen =>
      apply Ipv4Address.read_of_no_point
      simp [no_point_groupsText]
  | full notMapped noRun => exact Ipv4Address.read_of_no_point (no_point_groupsText _)

end Ipv6Address

namespace GroupAddress

theorem ofText?_text (address : GroupAddress) : ofText? address.text = some address := by
  cases address with
  | ipv4 address =>
      have found := address.read_toText_append startsNoDigit_nil
      rw [List.append_nil] at found
      simp [ofText?, internet?, text, found]
  | ipv6 address =>
      have written := address.written_toText
      simp [ofText?, internet?, text, written.not_ipv4, Ipv6Address.read_of_written written]
  | mac address =>
      have noPoint := Ipv6Address.no_point_joinParts address.spell_octets
      rw [← MacAddress.toText] at noPoint
      simp [ofText?, internet?, text, Ipv4Address.read_of_no_point noPoint,
        address.read_toText_eq_none, address.ofText?_toText]

/-- Every group address is read back from what it is shown as, and one of eight groups is shown as
it is to be written. -/
theorem ofText_toText :
    (∀ address : GroupAddress, ofText address.toText = .ok address) ∧
      ∀ address : Ipv6Address, address.Written (ipv6 address).text := by
  constructor
  · intro address
    simp [ofText, toText, ofText?_text]
  · exact Ipv6Address.written_toText

end GroupAddress

end BridgeView
