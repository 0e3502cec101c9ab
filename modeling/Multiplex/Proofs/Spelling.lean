import Mathlib.Data.List.Basic
import Multiplex.Method.Arguments

/-! Texts as octets and back. What was written as UTF-8 reads as it was. A short string keeps the
longest beginning of a text that has room in it, whichever characters stand at the cut. -/

namespace Multiplex

namespace Utf8

/-- An octet that goes on with a character, by the bits it ends with. -/
def continuation (bits : Nat) : UInt8 := UInt8.ofNat (bits % 64 + 128)

theorem toNat_continuation (bits : Nat) : (continuation bits).toNat = bits % 64 + 128 := by
  rw [continuation, UInt8.toNat_ofNat']
  omega

theorem bits_continuation (bits : Nat) :
    bits / 64 * 64 + ((continuation bits).toNat - 0x80) = bits := by
  rw [toNat_continuation]
  omega

section First

variable {n v : Nat}

theorem first_ofNat (octet : n < 256) : first (UInt8.ofNat n) =
    if n < 0x80 then .inl (Char.ofNat n)
    else if n < 0xC2 then .inl replacement
    else if n < 0xE0 then .inr ⟨n - 0xC0, 0x80, 0xBF, 0⟩
    else if n = 0xE0 then .inr ⟨0, 0xA0, 0xBF, 1⟩
    else if n = 0xED then .inr ⟨0xD, 0x80, 0x9F, 1⟩
    else if n < 0xF0 then .inr ⟨n - 0xE0, 0x80, 0xBF, 1⟩
    else if n = 0xF0 then .inr ⟨0, 0x90, 0xBF, 2⟩
    else if n < 0xF4 then .inr ⟨n - 0xF0, 0x80, 0xBF, 2⟩
    else if n = 0xF4 then .inr ⟨4, 0x80, 0x8F, 2⟩
    else .inl replacement := by
  have same : (UInt8.ofNat n).toNat = n := by
    rw [UInt8.toNat_ofNat', Nat.mod_eq_of_lt octet]
  simp only [first, UInt8.lt_iff_toNat_lt, ← UInt8.toNat_inj, same]
  rfl

theorem range_continuation {low high : UInt8} :
    low ≤ continuation v ∧ continuation v ≤ high ↔
      low.toNat ≤ v % 64 + 128 ∧ v % 64 + 128 ≤ high.toNat := by
  rw [UInt8.le_iff_toNat_le, UInt8.le_iff_toNat_le, toNat_continuation]

theorem first_two (long : 0x80 ≤ v) (short : v < 0x800) :
    first (UInt8.ofNat (v / 64 % 32 + 192)) = .inr ⟨v / 64, 0x80, 0xBF, 0⟩ := by
  rw [first_ofNat (by omega), if_neg (by omega), if_neg (by omega), if_pos (by omega)]
  have bits : v / 64 % 32 + 192 - 0xC0 = v / 64 := by omega
  rw [bits]

/-- A character is under way with so many bits and so many octets after the next one, which may be
a given one. -/
structure Partial.Awaits (p : Partial) (bits after next : Nat) : Prop where
  bits : p.bits = bits
  after : p.after = after
  low : p.low.toNat ≤ next % 64 + 128
  high : next % 64 + 128 ≤ p.high.toNat

theorem first_three (long : 0x800 ≤ v) (short : v < 0x10000) (scalar : v < 0xD800 ∨ 0xDFFF < v) :
    ∃ p, first (UInt8.ofNat (v / 4096 % 16 + 224)) = .inr p ∧ p.Awaits (v / 4096) 1 (v / 64) := by
  rw [first_ofNat (by omega), if_neg (by omega), if_neg (by omega), if_neg (by omega)]
  split_ifs with e0 ed
  · exact ⟨_, rfl, by dsimp; omega, rfl, by simp; omega, by simp; omega⟩
  · exact ⟨_, rfl, by dsimp; omega, rfl, by simp, by simp; omega⟩
  · exact ⟨_, rfl, by dsimp; omega, rfl, by simp, by simp; omega⟩
  all_goals omega

theorem first_four (long : 0x10000 ≤ v) (short : v < 0x110000) :
    ∃ p, first (UInt8.ofNat (v / 262144 % 8 + 240)) = .inr p ∧
      p.Awaits (v / 262144) 2 (v / 4096) := by
  rw [first_ofNat (by omega), if_neg (by omega), if_neg (by omega), if_neg (by omega),
    if_neg (by omega), if_neg (by omega), if_neg (by omega)]
  split_ifs with f0 below f4
  · exact ⟨_, rfl, by dsimp; omega, rfl, by simp; omega, by simp; omega⟩
  · exact ⟨_, rfl, by dsimp; omega, rfl, by simp, by simp; omega⟩
  · exact ⟨_, rfl, by dsimp; omega, rfl, by simp, by simp; omega⟩
  · omega

end First

section Chars

variable {p : Partial} {b : UInt8} {v n : Nat} {bs : Octets}

theorem awaits_any (bits n next : Nat) : Partial.Awaits ⟨bits, 0x80, 0xBF, n⟩ bits n next where
  bits := rfl
  after := rfl
  low := by simp
  high := by simp; omega

theorem chars_first (h : first b = .inr p) : chars none (b :: bs) = chars (some p) bs := by
  rw [chars, h]

theorem chars_more (h : p.Awaits (v / 64) (n + 1) v) :
    chars (some p) (continuation v :: bs) = chars (some ⟨v, 0x80, 0xBF, n⟩) bs := by
  rw [chars, if_pos (range_continuation.mpr ⟨h.low, h.high⟩), h.after]
  simp only [h.bits, bits_continuation]

theorem chars_last (h : p.Awaits (v / 64) 0 v) :
    chars (some p) (continuation v :: bs) = Char.ofNat v :: chars none bs := by
  rw [chars, if_pos (range_continuation.mpr ⟨h.low, h.high⟩), h.after]
  simp only [h.bits, bits_continuation]

/-- A character that was written is read, and no octet behind it. -/
theorem chars_utf8EncodeChar (c : Char) (bs : Octets) :
    chars none (String.utf8EncodeChar c ++ bs) = c :: chars none bs := by
  obtain ⟨v, hv⟩ : ∃ v, c.val.toNat = v := ⟨_, rfl⟩
  have same : Char.ofNat v = c := hv ▸ Char.ofNat_toNat c
  have scalar : v < 0xD800 ∨ 0xDFFF < v ∧ v < 0x110000 := hv ▸ c.valid
  simp only [String.utf8EncodeChar, hv]
  rw [← same]
  -- by how many octets the character takes
  split_ifs with one two three
  · have first : first (UInt8.ofNat v) = .inl (Char.ofNat v) := by
      rw [first_ofNat (by omega), if_pos (by omega)]
    rw [List.singleton_append, chars, first]
  · change chars none (_ :: continuation v :: bs) = _
    rw [chars_first (first_two (by omega) (by omega)), chars_last (awaits_any ..)]
  · obtain ⟨p, first, awaits⟩ := first_three (v := v) (by omega) (by omega) (by omega)
    change chars none (_ :: continuation (v / 64) :: continuation v :: bs) = _
    rw [← Nat.div_div_eq_div_mul v 64 64] at awaits
    rw [chars_first first, chars_more awaits, chars_last (awaits_any ..)]
  · obtain ⟨p, first, awaits⟩ := first_four (v := v) (by omega) (by omega)
    change chars none (_ :: continuation (v / 4096) :: continuation (v / 64) :: continuation v ::
      bs) = _
    rw [← Nat.div_div_eq_div_mul v 4096 64] at awaits
    rw [chars_first first, chars_more awaits, ← Nat.div_div_eq_div_mul v 64 64,
      chars_more (awaits_any ..), chars_last (awaits_any ..)]

theorem decode_written (text : String) : decode (encode text) = text := by
  have read (cs : List Char) : chars none (cs.flatMap String.utf8EncodeChar) = cs := by
    induction cs with
    | nil => rfl
    | cons c cs ih => rw [List.flatMap_cons, chars_utf8EncodeChar, ih]
  rw [decode, encode, read, String.ofList_toList]

end Chars

theorem encode_ofList (cs : List Char) :
    encode (String.ofList cs) = cs.flatMap String.utf8EncodeChar := by
  rw [encode, String.toList_ofList]

/-- The longest beginning of a text, in whole characters, that has so many octets at most. -/
structure Longest (budget : Nat) (text part : String) : Prop where
  begins : part.toList <+: text.toList
  fits : (encode part).length ≤ budget
  longest : ∀ other : String, other.toList <+: text.toList → (encode other).length ≤ budget →
    other.toList <+: part.toList

namespace Longest

variable {budget : Nat} {text part : String}

theorem eq_of_fits (h : Longest budget text part) (fits : (encode text).length ≤ budget) :
    part = text := by
  have all := h.longest text List.prefix_rfl fits
  exact String.toList_inj.mp (h.begins.eq_of_length_le all.length_le)

/-- Where a text is cut, less than four octets stay free, as not even one more character fits. -/
theorem lt_of_not_fits (h : Longest budget text part) (long : budget < (encode text).length) :
    budget < (encode part).length + 4 := by
  obtain ⟨rest, whole⟩ := h.begins
  cases rest with
  | nil =>
    rw [List.append_nil] at whole
    rw [← String.toList_inj.mp whole] at long
    exact absurd h.fits (Nat.not_le.mpr long)
  | cons c rest =>
    have begins : (String.ofList (part.toList ++ [c])).toList <+: text.toList := by
      rw [String.toList_ofList, ← whole]
      exact ⟨rest, by rw [List.append_assoc, List.singleton_append]⟩
    have size : (encode (String.ofList (part.toList ++ [c]))).length =
        (encode part).length + c.utf8Size := by
      rw [encode_ofList, List.flatMap_append, List.length_append, encode, List.flatMap_singleton,
        String.length_utf8EncodeChar]
    have four : c.utf8Size ≤ 4 := c.utf8Size_le_four
    refine Nat.lt_of_not_le fun room => ?_
    have longer := (h.longest _ begins (by omega)).length_le
    rw [String.toList_ofList, List.length_append, List.length_singleton] at longer
    omega

end Longest

end Utf8

namespace ShortString

/-- The longest beginning of whole characters within a budget of octets. -/
def fit : Nat → List Char → List Char
  | _, [] => []
  | budget, c :: cs => if c.utf8Size ≤ budget then c :: fit (budget - c.utf8Size) cs else []

def cut (text : String) : String := String.ofList (fit 255 text.toList)

section Boundary

variable {front octets : Octets} {n : Nat}

theorem continues_ofNat (octet : n < 256) :
    continues (UInt8.ofNat n) = decide (0x80 ≤ n ∧ n ≤ 0xBF) := by
  have same : (UInt8.ofNat n).toNat = n := by
    rw [UInt8.toNat_ofNat', Nat.mod_eq_of_lt octet]
  simp [continues, UInt8.le_iff_toNat_le, same]

/-- Of the octets of a character just the first one does not continue it. -/
theorem utf8EncodeChar_eq_cons (c : Char) : ∃ b more, String.utf8EncodeChar c = b :: more ∧
    continues b = false ∧ ∀ d ∈ more, continues d := by
  obtain ⟨v, hv⟩ : ∃ v, c.val.toNat = v := ⟨_, rfl⟩
  have scalar : v < 0xD800 ∨ 0xDFFF < v ∧ v < 0x110000 := hv ▸ c.valid
  have goes_on (bits : Nat) : continues (Utf8.continuation bits) := by
    rw [Utf8.continuation, continues_ofNat (by omega)]
    simp
    omega
  have begins {k : Nat} (octet : k < 256) (lead : k < 0x80 ∨ 0xBF < k) :
      continues (UInt8.ofNat k) = false := by
    rw [continues_ofNat octet]
    simp
    omega
  simp only [String.utf8EncodeChar, hv]
  split_ifs with one two three
  · exact ⟨_, [], rfl, begins (by omega) (by omega), by simp⟩
  · exact ⟨_, [Utf8.continuation v], rfl, begins (by omega) (by omega), by simp [goes_on]⟩
  · exact ⟨_, [Utf8.continuation (v / 64), Utf8.continuation v], rfl, begins (by omega) (by omega),
      by simp [goes_on]⟩
  · exact ⟨_, [Utf8.continuation (v / 4096), Utf8.continuation (v / 64), Utf8.continuation v], rfl,
      begins (by omega) (by omega), by simp [goes_on]⟩

theorem head?_encode (cs : List Char) :
    (cs.flatMap String.utf8EncodeChar).head?.any continues = false := by
  cases cs with
  | nil => rfl
  | cons c cs =>
    obtain ⟨b, more, spelled, lead, -⟩ := utf8EncodeChar_eq_cons c
    simp [spelled, lead]

theorem boundary_of_continues (inside : ∀ i, i < n → octets[i + 1]?.any continues) :
    boundary octets n = 0 := by
  induction n with
  | zero => rfl
  | succ n ih =>
    rw [boundary, if_pos (inside n (Nat.lt_succ_self n))]
    exact ih fun i below => inside i (Nat.lt_succ_of_lt below)

/-- No walk goes back behind the beginning of a character. -/
theorem boundary_append (some : 0 < front.length) (begins : octets.head?.any continues = false)
    (n : Nat) :
    boundary (front ++ octets) (front.length + n) = front.length + boundary octets n := by
  induction n with
  | zero =>
    obtain ⟨k, length⟩ := Nat.exists_eq_add_one.mpr some
    -- the octet behind the front begins a character, so the walk stops at once
    have here : (front ++ octets)[k + 1]? = octets.head? := by
      rw [← length, List.getElem?_append_right (Nat.le_refl _), Nat.sub_self,
        List.head?_eq_getElem?]
    rw [Nat.add_zero, length]
    simp [boundary, here, begins]
  | succ n ih =>
    have there : (front ++ octets)[front.length + n + 1]? = octets[n + 1]? := by
      rw [Nat.add_assoc, List.getElem?_append_right (Nat.le_add_right _ _), Nat.add_sub_cancel_left]
    rw [← Nat.add_assoc, boundary, there, ih, boundary]
    split <;> rfl

/-- The walk ends behind the last whole character that fits. -/
theorem boundary_encode (budget : Nat) (cs : List Char) :
    let octets := cs.flatMap String.utf8EncodeChar
    boundary octets (min octets.length budget) =
      ((fit budget cs).flatMap String.utf8EncodeChar).length := by
  fun_induction fit budget cs with
  | case1 => simp [boundary]
  | case2 budget c cs room ih =>
    have size : (String.utf8EncodeChar c).length = c.utf8Size := String.length_utf8EncodeChar c
    have stop : min ((c :: cs).flatMap String.utf8EncodeChar).length budget =
        (String.utf8EncodeChar c).length +
          min (cs.flatMap String.utf8EncodeChar).length (budget - c.utf8Size) := by
      rw [List.flatMap_cons, List.length_append]
      omega
    dsimp only
    rw [stop, List.flatMap_cons, boundary_append (size ▸ c.utf8Size_pos) (head?_encode cs), ih,
      List.flatMap_cons, List.length_append]
  | case3 budget c cs large =>
    have size : (String.utf8EncodeChar c).length = c.utf8Size := String.length_utf8EncodeChar c
    -- the cut falls inside the character, so the walk goes back to where it began
    obtain ⟨b, more, spelled, -, goes_on⟩ := utf8EncodeChar_eq_cons c
    have length : more.length + 1 = c.utf8Size := by rw [← size, spelled, List.length_cons]
    dsimp only
    rw [List.flatMap_nil, List.length_nil]
    refine boundary_of_continues fun i below => ?_
    have within : i < more.length := by omega
    rw [List.flatMap_cons, spelled, List.cons_append, List.getElem?_cons_succ,
      List.getElem?_append_left within, List.getElem?_eq_getElem within]
    exact goes_on _ (List.getElem_mem within)

end Boundary

section Fit

variable {budget : Nat} {cs ds : List Char}

theorem fit_begins (budget : Nat) (cs : List Char) : fit budget cs <+: cs := by
  fun_induction fit budget cs with
  | case1 | case3 => exact List.nil_prefix
  | case2 budget c cs room ih => exact List.cons_prefix_cons.mpr ⟨rfl, ih⟩

theorem length_fit_le (budget : Nat) (cs : List Char) :
    ((fit budget cs).flatMap String.utf8EncodeChar).length ≤ budget := by
  fun_induction fit budget cs with
  | case1 | case3 => exact Nat.zero_le _
  | case2 budget c cs room ih =>
    rw [List.flatMap_cons, List.length_append, String.length_utf8EncodeChar]
    omega

theorem begins_fit (begins : ds <+: cs)
    (fits : (ds.flatMap String.utf8EncodeChar).length ≤ budget) : ds <+: fit budget cs := by
  induction ds generalizing cs budget with
  | nil => exact List.nil_prefix
  | cons d ds ih =>
    obtain ⟨rest, rfl⟩ := begins
    rw [List.flatMap_cons, List.length_append, String.length_utf8EncodeChar] at fits
    rw [List.cons_append, fit, if_pos (Nat.le_trans (Nat.le_add_right _ _) fits)]
    exact List.cons_prefix_cons.mpr ⟨rfl, ih (List.prefix_append ds rest) (by omega)⟩

end Fit

theorem encode_eq (text : String) : encode text =
    UInt8.ofNat (Utf8.encode (cut text)).length :: Utf8.encode (cut text) := by
  have spelled : Utf8.encode (cut text) = (fit 255 text.toList).flatMap String.utf8EncodeChar :=
    Utf8.encode_ofList _
  obtain ⟨rest, whole⟩ := fit_begins 255 text.toList
  have stop : boundary (Utf8.encode text) (min (Utf8.encode text).length 255) =
      (Utf8.encode (cut text)).length := by
    rw [spelled]
    exact boundary_encode 255 text.toList
  have begins : Utf8.encode text =
      Utf8.encode (cut text) ++ rest.flatMap String.utf8EncodeChar := by
    rw [Utf8.encode, ← whole, List.flatMap_append, spelled]
  rw [encode, stop, begins, List.take_left]

theorem longest_cut (text : String) : Utf8.Longest 255 text (cut text) where
  begins := by
    rw [cut, String.toList_ofList]
    exact fit_begins 255 text.toList
  fits := by
    rw [cut, Utf8.encode_ofList]
    exact length_fit_le 255 text.toList
  longest other begins fits := by
    rw [cut, String.toList_ofList]
    exact begins_fit begins fits

theorem cut_of_fits {text : String} (fits : (Utf8.encode text).length ≤ 255) : cut text = text :=
  (longest_cut text).eq_of_fits fits

theorem cut_cut (text : String) : cut (cut text) = cut text :=
  cut_of_fits (longest_cut text).fits

theorem encode_cut (text : String) : encode (cut text) = encode text := by
  rw [encode_eq, encode_eq, cut_cut]

theorem toNat_length (text : String) :
    (UInt8.ofNat (Utf8.encode (cut text)).length).toNat = (Utf8.encode (cut text)).length := by
  rw [UInt8.toNat_ofNat', Nat.mod_eq_of_lt]
  exact Nat.lt_of_le_of_lt (longest_cut text).fits (by decide)

end ShortString
end Multiplex
