import Mathlib.Data.List.Basic
import Mathlib.Data.Nat.Digits

/-! Go's `net.IP` and its `String` method. The network service publishes the node's
external address as a `net.IP`; the status pusher and the hostsfile service both turn it
into text with `String`, which writes `<nil>` for an empty address, dotted decimal for an
IPv4 (or IPv4-mapped) address, and hex groups with the longest zero run shortened to `::`
for an IPv6 one. -/

namespace Monogon.Net

/-- `net.IP`; a nil slice is `none` of `Option IP`. -/
structure IP where
  bytes : List UInt8
deriving DecidableEq, Repr

/-- `network.Status`, of which only the external address is read. -/
structure Status where
  externalAddress : Option IP
deriving DecidableEq, Repr

/-- An address of one of the two lengths Go formats as an IP address. -/
def IP.Valid (ip : IP) : Prop := ip.bytes.length = 4 ∨ ip.bytes.length = 16

/-- `IP.To4`: the four bytes of an IPv4 address or of an IPv4-mapped IPv6 address. -/
def IP.to4 (ip : IP) : Option (List UInt8) :=
  if ip.bytes.length = 4 then some ip.bytes
  else if ip.bytes.length = 16 ∧ ip.bytes.take 12 = List.replicate 10 0 ++ [0xff, 0xff] then
    some (ip.bytes.drop 12)
  else none

/-- `ubtoa`: a byte in decimal. -/
def ubtoa (b : UInt8) : List Char := Nat.toDigits 10 b.toNat

/-- `appendHex`: a 16-bit group in lower-case hex without leading zeros. -/
def appendHex (v : Nat) : List Char := Nat.toDigits 16 v

/-- `hexString`: two hex digits per byte. -/
def hexString (bs : List UInt8) : List Char :=
  bs.flatMap fun b => [Nat.digitChar (b.toNat / 16), Nat.digitChar (b.toNat % 16)]

/-- The dotted decimal form of four bytes. -/
def dotted : List UInt8 → List Char
  | [a, b, c, d] => ubtoa a ++ '.' :: ubtoa b ++ '.' :: ubtoa c ++ '.' :: ubtoa d
  | _ => []

def IP.groups (ip : IP) : List Nat :=
  (List.range 8).map fun i => 256 * (ip.bytes.getD (2 * i) 0).toNat + (ip.bytes.getD (2 * i + 1) 0).toNat

/-- The number of zero groups starting at group `i`. -/
def zeroRunLength (groups : List Nat) (i : Nat) : Nat :=
  ((groups.drop i).takeWhile (· == 0)).length

/-- Go's search for the first longest run of zero groups, from group `i`. -/
def longestZeroRun (groups : List Nat) : Nat → Nat → Int × Int → Int × Int
  | 0, _, best => best
  | fuel + 1, i, (e0, e1) =>
    if i < 8 then
      let j := i + zeroRunLength groups i
      if i < j ∧ e1 - e0 < (j : Int) - i then longestZeroRun groups fuel (j + 1) (i, j)
      else longestZeroRun groups fuel (i + 1) (e0, e1)
    else (e0, e1)

/-- The run that `::` replaces; `(-1, -1)` when there is none. -/
def shortenedRun (groups : List Nat) : Int × Int :=
  let (e0, e1) := longestZeroRun groups 8 0 (-1, -1)
  if e1 - e0 ≤ 1 then (-1, -1) else (e0, e1)

/-- Go's printing loop over the groups from group `i`, with `::` in place of `[e0, e1)`. -/
def printGroups (groups : List Nat) (e0 e1 : Int) : Nat → Nat → List Char
  | 0, _ => []
  | fuel + 1, i =>
    if i < 8 then
      if (i : Int) = e0 then
        if 8 ≤ e1 then [':', ':']
        else ':' :: ':' :: appendHex (groups.getD e1.toNat 0) ++ printGroups groups e0 e1 fuel (e1.toNat + 1)
      else (if 0 < i then [':'] else []) ++ appendHex (groups.getD i 0) ++ printGroups groups e0 e1 fuel (i + 1)
    else []

/-- `IP.String` on a non-nil slice. -/
def IP.string (ip : IP) : String :=
  if ip.bytes.length = 0 then "<nil>"
  else match ip.to4 with
    | some p4 => ⟨dotted p4⟩
    | none =>
      if ip.bytes.length ≠ 16 then ⟨'?' :: hexString ip.bytes⟩
      else
        let (e0, e1) := shortenedRun ip.groups
        ⟨printGroups ip.groups e0 e1 8 0⟩

/-- `IP.String` on a possibly nil address: a nil slice prints as `<nil>`. -/
def addressString : Option IP → String
  | none => "<nil>"
  | some ip => ip.string

example : (IP.mk [10, 0, 255, 1]).string = "10.0.255.1" := by decide
example : (IP.mk [0x20, 1, 0xd, 0xb8, 0, 0, 0, 0, 0, 0, 0, 0, 0, 0, 0, 1]).string = "2001:db8::1" := by decide

/-! ## The text is never empty, and an address's text is made of address characters -/

/-- The characters of the text of a 4- or 16-byte address. -/
def addressChar (c : Char) : Bool :=
  c.isDigit || ('a' ≤ c && c ≤ 'f') || c == '.' || c == ':'

theorem toDigitsCore_suffix (base fuel n : Nat) (ds : List Char) :
    ∃ pre, Nat.toDigitsCore base fuel n ds = pre ++ ds := by
  induction fuel generalizing n ds with
  | zero => exact ⟨[], rfl⟩
  | succ fuel ih =>
    simp only [Nat.toDigitsCore]
    split
    · exact ⟨[_], rfl⟩
    · obtain ⟨pre, same⟩ := ih (n / base) (Nat.digitChar (n % base) :: ds)
      exact ⟨pre ++ [Nat.digitChar (n % base)], by simp [same]⟩

theorem toDigits_ne_nil (base n : Nat) : Nat.toDigits base n ≠ [] := by
  obtain ⟨pre, same⟩ := toDigitsCore_suffix base n (n / base) [Nat.digitChar (n % base)]
  simp only [Nat.toDigits, Nat.toDigitsCore]
  split <;> simp [same]

theorem toDigitsCore_chars {base : Nat} (positive : 0 < base) (small : base ≤ 16) (fuel n : Nat)
    (ds : List Char) (given : ∀ c ∈ ds, addressChar c = true) :
    ∀ c ∈ Nat.toDigitsCore base fuel n ds, addressChar c = true := by
  have digit : ∀ d < 16, addressChar (Nat.digitChar d) = true := by decide
  induction fuel generalizing n ds with
  | zero => exact given
  | succ fuel ih =>
    have head : addressChar (Nat.digitChar (n % base)) = true :=
      digit _ (by have := Nat.mod_lt n positive; omega)
    simp only [Nat.toDigitsCore]
    split
    · simpa [head] using given
    · exact ih _ _ (by simpa [head] using given)

theorem appendHex_chars (v : Nat) : ∀ c ∈ appendHex v, addressChar c = true :=
  toDigitsCore_chars (by decide) le_rfl _ _ _ (by simp)

theorem ubtoa_chars (b : UInt8) : ∀ c ∈ ubtoa b, addressChar c = true :=
  toDigitsCore_chars (by decide) (by decide) _ _ _ (by simp)

theorem dotted_chars (p4 : List UInt8) : ∀ c ∈ dotted p4, addressChar c = true := by
  unfold dotted
  split
  · simp only [List.mem_append, List.mem_cons]
    rintro c (((member | rfl | member) | rfl | member) | rfl | member) <;>
      first | rfl | exact ubtoa_chars _ c member
  · simp

theorem printGroups_chars (groups : List Nat) (e0 e1 : Int) (fuel i : Nat) :
    ∀ c ∈ printGroups groups e0 e1 fuel i, addressChar c = true := by
  induction fuel generalizing i with
  | zero => simp [printGroups]
  | succ fuel ih =>
    have colon : addressChar ':' = true := rfl
    simp only [printGroups]
    split_ifs <;>
      simp only [List.nil_append, List.singleton_append, List.forall_mem_append,
        List.forall_mem_cons, List.not_mem_nil, false_implies, implies_true, colon, true_and] <;>
      exact ⟨appendHex_chars _, ih _⟩

theorem IP.to4_length {ip : IP} {p4 : List UInt8} (found : ip.to4 = some p4) : p4.length = 4 := by
  unfold IP.to4 at found
  split_ifs at found with four mapped
  · cases found
    exact four
  · cases found
    simp [mapped.1]

theorem IP.to4_of_length_four {ip : IP} (four : ip.bytes.length = 4) : ip.to4 = some ip.bytes := by
  simp [IP.to4, four]

theorem dotted_ne_nil {p4 : List UInt8} (four : p4.length = 4) : dotted p4 ≠ [] := by
  match p4, four with
  | [_, _, _, _], _ => simp [dotted]

theorem printGroups_ne_nil (groups : List Nat) (e0 e1 : Int) (fuel : Nat) {i : Nat} (inside : i < 8) :
    printGroups groups e0 e1 (fuel + 1) i ≠ [] := by
  simp only [printGroups, if_pos inside]
  split_ifs <;> simp [appendHex, toDigits_ne_nil]

theorem text_ne_empty {text : List Char} (nonempty : text ≠ []) : (⟨text⟩ : String) ≠ "" :=
  fun same => nonempty (congrArg String.data same)

theorem IP.string_ne_empty (ip : IP) : ip.string ≠ "" := by
  unfold IP.string
  by_cases empty : ip.bytes.length = 0
  · rw [if_pos empty]
    decide
  · rw [if_neg empty]
    split
    · next p4 found => exact text_ne_empty (dotted_ne_nil (IP.to4_length found))
    · split_ifs
      · exact text_ne_empty (List.cons_ne_nil _ _)
      · exact text_ne_empty (printGroups_ne_nil _ _ _ 7 (by decide))

theorem IP.string_chars {ip : IP} (valid : ip.Valid) : ∀ c ∈ ip.string.data, addressChar c = true := by
  have nonempty : ip.bytes.length ≠ 0 := by unfold IP.Valid at valid; omega
  unfold IP.string
  rw [if_neg nonempty]
  split
  · exact dotted_chars _
  · next absent =>
    have sixteen : ip.bytes.length = 16 := by
      rcases valid with four | sixteen
      · simp [IP.to4_of_length_four four] at absent
      · exact sixteen
    simp only [sixteen, ne_eq, not_true_eq_false, if_false]
    exact printGroups_chars _ _ _ _ _

theorem IP.string_ne_nil {ip : IP} (valid : ip.Valid) : ip.string ≠ "<nil>" := by
  intro same
  have bracket := IP.string_chars valid '<' (by rw [same]; decide)
  exact absurd bracket (by decide)

end Monogon.Net
