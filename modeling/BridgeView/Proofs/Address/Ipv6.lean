import BridgeView.Address.Ipv6
import BridgeView.Address.Mac
import BridgeView.Proofs.Text.Numeral
import Mathlib.Data.List.Forall2

/-!
# Internet addresses that are read back

The reader of an address takes groups for as long as it finds some, so what is written is read back
where it is followed by something that starts no further group (`Stops`): the end of the text, or
the two colons that stand for zero groups.

What an address of eight groups is written as is said without the printer (`Written`): whether it
maps an address of four octets, else whether some run of zero groups is to be left out, the longest
and of several the first. The printer writes it (`written_toText`), and the reader reads every text
of that form (`read_of_written`).
-/

namespace BridgeView

open Text

/-! ## Addresses of four octets -/

namespace Ipv4Address

/-- A decimal octet is taken from in front of anything that does not go on with a digit. -/
theorem readOctet_octetText_append (octet : UInt8) {rest : List Char}
    (ends : StartsNoDigit 10 rest) : readOctet (octetText octet ++ rest) = some (octet, rest) := by
  have bound := octet.toNat_lt
  have value : digitsValue? 10 0 (octetText octet) = some octet.toNat :=
    digitsValue?_toDigits (by omega) (by omega) octet.toNat
  have notEmpty : (octetText octet).length ≠ 0 := by simp [octetText, Nat.toDigits_ne_nil]
  have few : (octetText octet).length ≤ 3 :=
    (Nat.length_toDigits_le_iff (by omega) (by omega)).mpr (by omega)
  have noLeadingZero : ¬((octetText octet).head? = some '0' ∧ 1 < (octetText octet).length) := by
    rcases Nat.eq_zero_or_pos octet.toNat with isZero | positive
    · simp [octetText, isZero]
    · exact fun leading => head?_toDigits_ne_zero (by omega) (by omega) positive leading.1
  have wellFormed : ¬((octetText octet).length = 0 ∨ 3 < (octetText octet).length ∨
      (octetText octet).head? = some '0' ∧ 1 < (octetText octet).length) := by
    rintro (isEmpty | tooMany | leading)
    · exact notEmpty isEmpty
    · omega
    · exact noLeadingZero leading
  simp only [readOctet, takeWhile_digits_append value ends, value, if_neg wellFormed,
    List.drop_left, UInt8.ofNat_toNat]
  exact if_pos (by omega)

theorem read_toText_append (address : Ipv4Address) {rest : List Char}
    (ends : StartsNoDigit 10 rest) : read (address.toText ++ rest) = some (address, rest) := by
  have point (text : List Char) : StartsNoDigit 10 ('.' :: text) := startsNoDigit_cons rfl text
  simp [read, toText, readOctet_octetText_append _ (point _), readOctet_octetText_append _ ends,
    skip]

theorem read_of_startsNoDigit {text : List Char} (noDigit : StartsNoDigit 10 text) :
    read text = none := by
  simp [read, readOctet, takeWhile_digits_eq_nil noDigit]

theorem skip_of_not_mem {character : Char} {text : List Char} (absent : character ∉ text) :
    skip character text = none := by
  cases text with
  | nil => rfl
  | cons head rest =>
      rw [List.mem_cons, not_or] at absent
      rw [skip, if_neg (Ne.symm absent.1)]

/-- Taking an octet only takes characters away. -/
theorem mem_of_readOctet {text rest : List Char} {octet : UInt8}
    (taken : readOctet text = some (octet, rest)) : ∀ character ∈ rest, character ∈ text := by
  unfold readOctet at taken
  dsimp only at taken
  split at taken
  · cases taken
  · split at taken
    · cases taken
    · split at taken
      · simp only [Option.some.injEq, Prod.mk.injEq] at taken
        rw [← taken.2]
        exact fun character => List.mem_of_mem_drop
      · cases taken

/-- An address of four octets has points. -/
theorem read_of_no_point {text : List Char} (noPoint : '.' ∉ text) : read text = none := by
  rw [read]
  cases taken : readOctet text with
  | none => rfl
  | some result =>
      have stillNoPoint : '.' ∉ result.2 := fun isPoint =>
        noPoint (mem_of_readOctet taken '.' isPoint)
      simp [skip_of_not_mem stillNoPoint]

end Ipv4Address

open Ipv4Address

namespace Ipv6Address

/-! ## Groups -/

/-- The text is a hexadecimal numeral of the group, of four digits at most. -/
structure Spells (text : List Char) (group : UInt16) : Prop where
  value_eq : digitsValue? 16 0 text = some group.toNat
  notEmpty : text ≠ []
  few : text.length ≤ 4

theorem spells_hexDigits (group : UInt16) : Spells (hexDigits group.toNat) group where
  value_eq := digitsValue?_toDigits (by omega) (by omega) group.toNat
  notEmpty := Nat.toDigits_ne_nil
  few := (Nat.length_toDigits_le_iff (by omega) (by omega)).mpr group.toNat_lt

theorem spells_hexOctet (octet : UInt8) : Spells (hexOctet octet) octet.toUInt16 where
  value_eq := by rw [digitsValue?_hexOctet, UInt8.toNat_toUInt16]
  notEmpty := by simp [hexOctet]
  few := by simp [hexOctet]

theorem Spells.isDigit {text : List Char} {group : UInt16} (spells : Spells text group) :
    ∀ digit ∈ text, (digitValue? 16 digit).isSome = true :=
  isSome_digitValue?_of_mem spells.value_eq

theorem Spells.not_mem {text : List Char} {group : UInt16} (spells : Spells text group)
    {character : Char} (noDigit : digitValue? 16 character = none) : character ∉ text := by
  intro isIn
  have isDigit := spells.isDigit character isIn
  rw [noDigit] at isDigit
  cases isDigit

theorem readGroup_append {text rest : List Char} {group : UInt16} (spells : Spells text group)
    (ends : StartsNoDigit 16 rest) : readGroup (text ++ rest) = some (group, rest) := by
  have notEmpty : text.length ≠ 0 := by simpa using spells.notEmpty
  have few := spells.few
  simp only [readGroup, takeWhile_digits_append spells.value_eq ends, spells.value_eq]
  rw [if_neg (by omega)]
  simp

theorem readGroup_of_startsNoDigit {text : List Char} (noDigit : StartsNoDigit 16 text) :
    readGroup text = none := by
  simp [readGroup, takeWhile_digits_eq_nil noDigit]

variable {room : Nat} {isFirst : Bool} {text body rest : List Char}

/-- A group adds one to the groups that are found behind it. -/
theorem readGroups_of_group {group : UInt16}
    (opens : (if isFirst then some text else skip ':' text) = some body)
    (noIpv4 : Ipv4Address.read body = none) (isGroup : readGroup body = some (group, rest)) :
    readGroups (room + 1) isFirst text =
      let more := readGroups room false rest
      { more with groups := group :: more.groups } := by
  simp only [readGroups, opens, noIpv4, isGroup, ite_self]

/-- Where no digit follows, no group is found. -/
theorem readGroups_of_no_group
    (opens : (if isFirst then some text else skip ':' text) = some body)
    (noDigit : StartsNoDigit 16 body) : readGroups room isFirst text = ⟨[], false, text⟩ := by
  have noDecimal : StartsNoDigit 10 body := by
    intro character isHead
    rw [digitValue?_eq_filter (by omega), noDigit character isHead]
    rfl
  cases room with
  | zero => rfl
  | succ room =>
      simp only [readGroups, opens, read_of_startsNoDigit noDecimal,
        readGroup_of_startsNoDigit noDigit, ite_self]

/-- No group and no address of four octets is read on from here. -/
structure Stops (rest : List Char) : Prop where
  noPoint : '.' ∉ rest
  noDigit : StartsNoDigit 16 rest
  noGroup : ∀ room isFirst, readGroups room isFirst rest = ⟨[], false, rest⟩

theorem stops_nil : Stops [] where
  noPoint := List.not_mem_nil
  noDigit := startsNoDigit_nil
  noGroup
    | 0, _ => rfl
    | _ + 1, false => rfl
    | _ + 1, true => readGroups_of_no_group rfl startsNoDigit_nil

theorem startsNoDigit_colon (text : List Char) : StartsNoDigit 16 (':' :: text) :=
  startsNoDigit_cons rfl text

/-- The gap between the groups stops reading them. -/
theorem stops_colons (noPoint : '.' ∉ rest) : Stops (':' :: ':' :: rest) where
  noPoint := by simp [noPoint]
  noDigit := startsNoDigit_colon _
  noGroup
    | _, false => readGroups_of_no_group rfl (startsNoDigit_colon rest)
    | _, true => readGroups_of_no_group rfl (startsNoDigit_colon (':' :: rest))

/-! ## Groups between colons -/

open MacAddress

theorem joinParts_cons (part : List Char) (parts : List (List Char)) :
    joinParts (part :: parts) = part ++ parts.flatMap (':' :: ·) := by
  induction parts generalizing part with
  | nil => simp [joinParts]
  | cons next parts ih =>
      rw [joinParts, ih, List.flatMap_cons, List.cons_append]
      exact List.cons_ne_nil next parts

variable {parts : List (List Char)} {groups : List UInt16}

theorem digitValue?_point : digitValue? 16 '.' = none := rfl

theorem no_point_flatMap (spell : List.Forall₂ Spells parts groups) :
    '.' ∉ parts.flatMap (':' :: ·) := by
  induction spell with
  | nil => exact List.not_mem_nil
  | cons first later ih =>
      have noPoint := first.not_mem digitValue?_point
      rw [List.flatMap_cons, List.mem_append, List.mem_cons]
      simp [noPoint, ih]

/-- The text of groups has no point, so that it holds no address of version four. -/
theorem no_point_joinParts (spell : List.Forall₂ Spells parts groups) : '.' ∉ joinParts parts := by
  cases spell with
  | nil => exact List.not_mem_nil
  | cons first later =>
      rw [joinParts_cons, List.mem_append]
      simp [first.not_mem digitValue?_point, no_point_flatMap later]

theorem Stops.noDigit_flatMap (stops : Stops rest) (parts : List (List Char)) :
    StartsNoDigit 16 (parts.flatMap (':' :: ·) ++ rest) := by
  cases parts with
  | nil => exact stops.noDigit
  | cons part parts => exact startsNoDigit_colon _

/-- One of several groups is read, and reading goes on behind it. -/
theorem readGroups_part {part : List Char} {group : UInt16} (first : Spells part group)
    (later : List.Forall₂ Spells parts groups) (stops : Stops rest)
    (opens : (if isFirst then some text else skip ':' text)
      = some (part ++ (parts.flatMap (':' :: ·) ++ rest))) :
    readGroups (room + 1) isFirst text =
      let more := readGroups room false (parts.flatMap (':' :: ·) ++ rest)
      { more with groups := group :: more.groups } := by
  have noPoint : '.' ∉ part ++ (parts.flatMap (':' :: ·) ++ rest) := by
    simp only [List.mem_append, not_or]
    exact ⟨first.not_mem rfl, no_point_flatMap later, stops.noPoint⟩
  exact readGroups_of_group opens (read_of_no_point noPoint)
    (readGroup_append first (stops.noDigit_flatMap parts))

/-- Groups behind colons are all read, up to where reading stops. -/
theorem readGroups_flatMap (spell : List.Forall₂ Spells parts groups) (stops : Stops rest)
    (fits : parts.length ≤ room) :
    readGroups room false (parts.flatMap (':' :: ·) ++ rest) = ⟨groups, false, rest⟩ := by
  induction spell generalizing room with
  | nil => exact stops.noGroup room false
  | cons first later ih =>
      rcases room with _ | room
      · cases fits
      · rw [List.length_cons, Nat.add_le_add_iff_right] at fits
        rw [List.flatMap_cons, List.cons_append, List.cons_append, List.append_assoc,
          readGroups_part first later stops rfl, ih fits]

/-- Groups between colons are read as they are, where no further group starts. -/
theorem readGroups_joinParts (spell : List.Forall₂ Spells parts groups) (stops : Stops rest)
    (fits : parts.length ≤ room) :
    readGroups room true (joinParts parts ++ rest) = ⟨groups, false, rest⟩ := by
  cases spell with
  | nil => exact stops.noGroup room true
  | cons first later =>
      rcases room with _ | room
      · cases fits
      · rw [List.length_cons, Nat.add_le_add_iff_right] at fits
        rw [joinParts_cons, List.append_assoc, readGroups_part first later stops rfl,
          readGroups_flatMap later stops fits]

/-! ## Runs of zero groups -/

/-- There is a run of some zero groups from a position on. -/
def IsRun (groups : List UInt16) (start length : Nat) : Prop :=
  ∃ front back, groups = front ++ (List.replicate length 0 ++ back) ∧ front.length = start

theorem IsRun.inside {start length : Nat} (isRun : IsRun groups start length) :
    start + length ≤ groups.length := by
  rcases isRun with ⟨front, back, rfl, rfl⟩
  simp only [List.length_append, List.length_replicate]
  omega

theorem leadingZeros_replicate_append (length : Nat) (back : List UInt16) :
    length ≤ leadingZeros (List.replicate length 0 ++ back) := by
  rw [leadingZeros, List.takeWhile_append_of_pos (by simp)]
  simp

theorem take_leadingZeros (groups : List UInt16) :
    groups.take (leadingZeros groups) = List.replicate (leadingZeros groups) 0 := by
  have isPrefix := List.prefix_iff_eq_take.mp (List.takeWhile_prefix (l := groups) (· == 0))
  rw [leadingZeros, ← isPrefix, List.eq_replicate_iff]
  refine ⟨rfl, fun group isZero => ?_⟩
  have allZero := List.all_eq_true.mp (List.all_takeWhile (p := (· == 0)) (l := groups))
  simpa using allZero group isZero

/-- A run of zeros starts at an offset if and only if there are as many zeros from there on. -/
theorem isRun_iff {start length : Nat} (inside : start ≤ groups.length) :
    IsRun groups start length ↔ length ≤ leadingZeros (groups.drop start) := by
  constructor
  · rintro ⟨front, back, rfl, rfl⟩
    rw [List.drop_left]
    exact leadingZeros_replicate_append length back
  · intro few
    have split : List.replicate length 0 ++ (groups.drop start).drop length
        = groups.drop start := by
      have zeros := congrArg (List.take length) (take_leadingZeros (groups.drop start))
      rw [List.take_take, List.take_replicate, Nat.min_eq_left few] at zeros
      rw [← zeros, List.take_append_drop]
    exact ⟨groups.take start, (groups.drop start).drop length,
      by rw [split, List.take_append_drop], List.length_take_of_le inside⟩

/-- The run is the longest one, and of several the first. -/
structure IsChosenRun (groups : List UInt16) (start length : Nat) : Prop where
  isRun : IsRun groups start length
  longest : ∀ other size, IsRun groups other size → size ≤ length
  first : ∀ other size, IsRun groups other size → other < start → size < length

/-- Among the runs that start before some position, the best so far is the longest, and of several
the first. -/
structure Leads (groups : List UInt16) (count : Nat) (best : Nat × Nat) : Prop where
  isRun : IsRun groups best.1 best.2
  longest : ∀ other < count, leadingZeros (groups.drop other) ≤ best.2
  first : ∀ other < best.1, leadingZeros (groups.drop other) < best.2

/-- The search for the longest run keeps the first one of the greatest length so far. -/
theorem leads_foldl (groups : List UInt16) {count : Nat} (inside : count ≤ groups.length) :
    Leads groups count ((List.range count).foldl
      (fun best start =>
        let length := leadingZeros (groups.drop start)
        if best.2 < length then (start, length) else best)
      (0, 0)) := by
  induction count with
  | zero => exact ⟨⟨[], groups, rfl, rfl⟩, by simp, by simp⟩
  | succ count ih =>
      have leads := ih (by omega)
      rw [List.range_succ, List.foldl_append]
      generalize (List.range count).foldl _ (0, 0) = best at leads
      simp only [List.foldl_cons, List.foldl_nil]
      split
      · rename_i longer
        refine ⟨(isRun_iff (by omega)).mpr (Nat.le_refl _), fun other before => ?_,
          fun other before => ?_⟩
        · rcases Nat.lt_succ_iff_lt_or_eq.mp before with earlier | rfl
          · exact Nat.le_of_lt (Nat.lt_of_le_of_lt (leads.longest other earlier) longer)
          · exact Nat.le_refl _
        · exact Nat.lt_of_le_of_lt (leads.longest other before) longer
      · rename_i notLonger
        refine ⟨leads.isRun, fun other before => ?_, leads.first⟩
        rcases Nat.lt_succ_iff_lt_or_eq.mp before with earlier | rfl
        · exact leads.longest other earlier
        · exact Nat.le_of_not_lt notLonger

/-- The run that is found is the first one of the greatest length. -/
theorem isChosenRun_longestZeroRun (groups : List UInt16) :
    IsChosenRun groups (longestZeroRun groups).1 (longestZeroRun groups).2 := by
  have leads := leads_foldl groups (Nat.le_refl groups.length)
  rw [← longestZeroRun] at leads
  refine ⟨leads.isRun, fun other size isRun => ?_, fun other size isRun before => ?_⟩
  · have inside := isRun.inside
    rcases Nat.lt_or_ge other groups.length with before | atEnd
    · exact Nat.le_trans ((isRun_iff (by omega)).mp isRun) (leads.longest other before)
    · omega
  · have inside := isRun.inside
    exact Nat.lt_of_le_of_lt ((isRun_iff (by omega)).mp isRun) (leads.first other before)

/-! ## Addresses of eight groups -/

/-- The address maps an address of four octets. -/
def Maps (address : Ipv6Address) (ipv4 : Ipv4Address) : Prop :=
  address.groups = [0, 0, 0, 0, 0, 0xffff] ++ groupsOf ipv4.toOctets

/-- How an address is to be written: one that maps an address of four octets ends in that, and else
the longest of the runs of zero groups is left out, and of several the first, unless it is a single
group. -/
inductive Written (address : Ipv6Address) : List Char → Prop
  | mapped {ipv4 : Ipv4Address} (maps : address.Maps ipv4) :
      Written address ([':', ':', 'f', 'f', 'f', 'f', ':'] ++ ipv4.toText)
  | shortened {front back : List UInt16} {length : Nat} (notMapped : ∀ ipv4, ¬address.Maps ipv4)
      (groups_eq : address.groups = front ++ (List.replicate length 0 ++ back))
      (several : 1 < length) (chosen : IsChosenRun address.groups front.length length) :
      Written address (groupsText front ++ [':', ':'] ++ groupsText back)
  | full (notMapped : ∀ ipv4, ¬address.Maps ipv4)
      (noRun : ∀ start length, IsRun address.groups start length → length ≤ 1) :
      Written address (groupsText address.groups)

theorem octets_word16 (low high : UInt8) : (Octets.word16 low high).toUInt8 = low ∧
    UInt8.ofNat ((Octets.word16 low high).toNat / 256) = high := by
  simpa [Octets.ofWord16] using Octets.ofWord16_word16 low high

/-- An address maps one of version four if its groups say so. -/
theorem mapped?_eq_some_iff {address : Ipv6Address} {ipv4 : Ipv4Address} :
    address.mapped? = some ipv4 ↔ address.Maps ipv4 := by
  constructor
  · intro isMapped
    unfold mapped? at isMapped
    split at isMapped
    · rename_i high low groups_eq
      rw [Option.some.injEq] at isMapped
      rw [Maps, groups_eq, ← isMapped]
      simp [Ipv4Address.toOctets, groupsOf]
    · cases isMapped
  · intro maps
    have high := octets_word16 ipv4.second ipv4.first
    have low := octets_word16 ipv4.fourth ipv4.third
    have groups_eq : address.groups = [0, 0, 0, 0, 0, 0xffff,
      Octets.word16 ipv4.second ipv4.first, Octets.word16 ipv4.fourth ipv4.third] := maps
    simp only [mapped?, groups_eq, high, low]

/-- The text of an address is in one of the three forms of writing it. -/
theorem written_toText (address : Ipv6Address) : address.Written address.toText := by
  cases isMapped : address.mapped? with
  | some ipv4 =>
      rw [toText, isMapped]
      exact .mapped (mapped?_eq_some_iff.mp isMapped)
  | none =>
      have notMapped : ∀ ipv4, ¬address.Maps ipv4 := by
        intro ipv4 maps
        rw [mapped?_eq_some_iff.mpr maps] at isMapped
        cases isMapped
      have chosen := isChosenRun_longestZeroRun address.groups
      rw [toText, isMapped]
      generalize longestZeroRun address.groups = run at chosen
      rcases run with ⟨start, length⟩
      dsimp only at chosen ⊢
      split
      · rename_i several
        rcases chosen.isRun with ⟨front, back, groups_eq, rfl⟩
        have front_eq : address.groups.take front.length = front := by
          rw [groups_eq, List.take_left]
        have back_eq : address.groups.drop (front.length + length) = back := by
          rw [groups_eq, ← List.drop_drop, List.drop_left, List.drop_left' List.length_replicate]
        rw [front_eq, back_eq]
        exact .shortened notMapped groups_eq several chosen
      · rename_i single
        refine .full notMapped fun start size isRun => ?_
        exact Nat.le_trans (chosen.longest start size isRun) (Nat.le_of_not_lt single)

/-- Two ends with zeros between them make up the address. -/
theorem ofEnds?_eq_some {address : Ipv6Address} {front back : List UInt16} {length : Nat}
    (groups_eq : address.groups = front ++ (List.replicate length 0 ++ back)) :
    ofEnds? front back = some address := by
  rcases address with ⟨groups, isEight⟩
  dsimp only at groups_eq
  subst groups_eq
  have total := isEight
  simp only [List.length_append, List.length_replicate] at total
  have between : 8 - front.length - back.length = length := by omega
  have fits : front.length + back.length ≤ 8 := by omega
  simp only [ofEnds?, dif_pos fits, between, List.append_assoc]

theorem groupsText_eq_joinParts (groups : List UInt16) :
    groupsText groups = joinParts (groups.map fun group => hexDigits group.toNat) := by
  induction groups with
  | nil => rfl
  | cons group later ih =>
      cases later with
      | nil => rfl
      | cons next later =>
          rw [groupsText, ih]
          · rfl
          · exact List.cons_ne_nil next later

theorem spell_groupsText (groups : List UInt16) :
    List.Forall₂ Spells (groups.map fun group => hexDigits group.toNat) groups := by
  rw [List.forall₂_map_left_iff, List.forall₂_same]
  exact fun group _ => spells_hexDigits group

theorem readGroups_groupsText {groups : List UInt16} (stops : Stops rest)
    (fits : groups.length ≤ room) :
    readGroups room true (groupsText groups ++ rest) = ⟨groups, false, rest⟩ := by
  rw [groupsText_eq_joinParts]
  exact readGroups_joinParts (spell_groupsText groups) stops (by simpa using fits)

theorem no_point_groupsText (groups : List UInt16) : '.' ∉ groupsText groups := by
  rw [groupsText_eq_joinParts]
  exact no_point_joinParts (spell_groupsText groups)

theorem read_of_full (address : Ipv6Address) :
    read (groupsText address.groups) = some (address, []) := by
  have front := readGroups_groupsText stops_nil (Nat.le_of_eq address.length_groups)
  have whole : ofEnds? address.groups [] = some address :=
    ofEnds?_eq_some (by simp : address.groups = address.groups ++ (List.replicate 0 0 ++ []))
  rw [List.append_nil] at front
  simp [read, front, address.length_groups, whole]

/-- An address that is written with a gap is read. -/
theorem read_of_shortened {address : Ipv6Address} {front back : List UInt16} {length : Nat}
    (groups_eq : address.groups = front ++ (List.replicate length 0 ++ back))
    (several : 1 < length) :
    read (groupsText front ++ [':', ':'] ++ groupsText back) = some (address, []) := by
  have total := congrArg List.length groups_eq
  rw [address.length_groups] at total
  simp only [List.length_append, List.length_replicate] at total
  have stops : Stops (':' :: ':' :: groupsText back) := stops_colons (no_point_groupsText back)
  have readsFront : readGroups 8 true (groupsText front ++ ':' :: ':' :: groupsText back) =
      ⟨front, false, ':' :: ':' :: groupsText back⟩ := readGroups_groupsText stops (by omega)
  have readsBack : readGroups (7 - front.length) true (groupsText back) = ⟨back, false, []⟩ := by
    have fits : back.length ≤ 7 - front.length := by omega
    have alone := readGroups_groupsText stops_nil fits
    rwa [List.append_nil] at alone
  have notAll : front.length ≠ 8 := by omega
  have whole := ofEnds?_eq_some groups_eq
  simp [read, readsFront, notAll, skip, readsBack, whole]

/-- An address that is written with one of version four at its end is read. -/
theorem read_of_mapped {address : Ipv6Address} {ipv4 : Ipv4Address} (maps : address.Maps ipv4) :
    read ([':', ':', 'f', 'f', 'f', 'f', ':'] ++ ipv4.toText) = some (address, []) := by
  have readsFront : readGroups 8 true ([':', ':', 'f', 'f', 'f', 'f', ':'] ++ ipv4.toText) =
      ⟨[], false, [':', ':', 'f', 'f', 'f', 'f', ':'] ++ ipv4.toText⟩ :=
    readGroups_of_no_group rfl (startsNoDigit_colon _)
  have ones : Spells ['f', 'f', 'f', 'f'] 0xffff := ⟨by decide, by decide, by decide⟩
  have readsIpv4 : readGroups 6 false (':' :: ipv4.toText) =
      ⟨groupsOf ipv4.toOctets, true, []⟩ := by
    have ipv4Read := read_toText_append ipv4 startsNoDigit_nil
    rw [List.append_nil] at ipv4Read
    simp [readGroups, skip, ipv4Read]
  have readsBack : readGroups 7 true (['f', 'f', 'f', 'f'] ++ (':' :: ipv4.toText)) =
      ⟨0xffff :: groupsOf ipv4.toOctets, true, []⟩ := by
    rw [readGroups_of_group rfl (read_of_startsNoDigit (startsNoDigit_cons rfl _))
      (readGroup_append ones (startsNoDigit_colon _)), readsIpv4]
  have groups_eq : address.groups =
      [] ++ (List.replicate 5 0 ++ (0xffff :: groupsOf ipv4.toOctets)) := maps
  have whole := ofEnds?_eq_some groups_eq
  simp only [List.cons_append, List.nil_append] at readsFront readsBack ⊢
  simp [read, readsFront, skip, readsBack, whole]

/-- What an address is to be written as is read as the address. -/
theorem read_of_written {address : Ipv6Address} {text : List Char}
    (written : address.Written text) : read text = some (address, []) := by
  cases written with
  | mapped maps => exact read_of_mapped maps
  | shortened notMapped groups_eq several chosen => exact read_of_shortened groups_eq several
  | full notMapped noRun => exact read_of_full address

end Ipv6Address

end BridgeView
