import ProcessAccounting.Platform
import ProcessAccounting.Proofs.Text.Trimming

/-!
# Which names are the supported system's

A name is tested by its first bytes, which need not be whole characters.  The test is the same as
one on characters: a name passes it when it begins with five ASCII characters that spell the
system's name (`isLinuxName_iff`), whatever follows them.
-/

namespace ProcessAccounting.Platform

variable {n : Nat} {cs front : List Char}

theorem utf8ByteSize_ofList_cons (c : Char) (cs : List Char) :
    (String.ofList (c :: cs)).utf8ByteSize = c.utf8Size + (String.ofList cs).utf8ByteSize := by
  rw [String.ofList_cons, String.utf8ByteSize_append, String.utf8ByteSize_singleton]

/-- The first `n` bytes are characters when the text starts with characters of `n` bytes. -/
theorem firstBytes?_eq_some_iff :
    firstBytes? n cs = some front ↔
      ∃ rest, cs = front ++ rest ∧ (String.ofList front).utf8ByteSize = n := by
  fun_induction firstBytes? n cs generalizing front with
  | case1 cs =>
    cases front with
    | nil => simp
    | cons d front =>
      simp only [Option.some.injEq, reduceCtorEq, false_iff, utf8ByteSize_ofList_cons]
      rintro ⟨rest, -, size⟩
      have := d.utf8Size_pos
      omega
  | case2 n => cases front <;> simp
  | case3 n c cs fits ih =>
    cases front with
    | nil => simp
    | cons d front =>
      simp only [Option.map_eq_some_iff, ih, utf8ByteSize_ofList_cons, List.cons_append,
        List.cons.injEq]
      constructor
      · rintro ⟨front', ⟨rest, parts, size⟩, rfl, rfl⟩
        exact ⟨rest, ⟨rfl, parts⟩, by omega⟩
      · rintro ⟨rest, ⟨rfl, parts⟩, size⟩
        exact ⟨front, ⟨rest, parts, by omega⟩, rfl, rfl⟩
  | case4 n c cs exceeds =>
    cases front with
    | nil => simp
    | cons d front =>
      simp only [utf8ByteSize_ofList_cons, List.cons_append, List.cons.injEq, reduceCtorEq,
        false_iff]
      rintro ⟨rest, ⟨rfl, parts⟩, size⟩
      omega

/-- The first `n` bytes are characters unless the text is shorter or a character lies across that
boundary. -/
theorem isSome_firstBytes?_iff :
    (firstBytes? n cs).isSome ↔ (⟨n⟩ : String.Pos.Raw).IsValid (String.ofList cs) := by
  simp only [Option.isSome_iff_exists, firstBytes?_eq_some_iff,
    String.Pos.Raw.isValid_iff_exists_append]
  constructor
  · rintro ⟨front, rest, rfl, rfl⟩
    exact ⟨.ofList front, .ofList rest, String.ofList_append, rfl⟩
  · rintro ⟨front, rest, parts, size⟩
    refine ⟨front.toList, rest.toList, ?_, ?_⟩
    · rw [← String.toList_append, ← parts, String.toList_ofList]
    · rw [String.ofList_toList, ← String.byteIdx_rawEndPos, ← size]

/-- The text begins with five ASCII characters that spell `linux` in any mixture of upper and
lower case. -/
def BeginsWithName (cs : List Char) : Prop :=
  ∃ five rest, cs = five ++ rest ∧ five.length = 5 ∧ (∀ c ∈ five, c.toNat < 128) ∧
    five.map Char.toLower = ['l', 'i', 'n', 'u', 'x']

theorem toNat_lt_of_toLower {c : Char} (ascii : c.toLower.toNat < 128) : c.toNat < 128 := by
  unfold Char.toLower at ascii
  split at ascii
  · next upper =>
    have := UInt32.le_iff_toNat_le.mp upper.2
    change c.toNat ≤ 90 at this
    omega
  · exact ascii

theorem utf8Size_of_ascii {c : Char} (ascii : c.toNat < 128) : c.utf8Size = 1 := by
  rw [Char.utf8Size_eq_one_iff, UInt32.le_iff_toNat_le]
  change c.toNat ≤ 127
  omega

theorem utf8ByteSize_of_ascii (ascii : ∀ c ∈ cs, c.toNat < 128) :
    (String.ofList cs).utf8ByteSize = cs.length := by
  induction cs with
  | nil => rfl
  | cons c cs ih =>
    have size := utf8Size_of_ascii (ascii c List.mem_cons_self)
    have rest := ih fun d member => ascii d (List.mem_cons_of_mem c member)
    rw [utf8ByteSize_ofList_cons, size, rest, List.length_cons, Nat.add_comm]

/-- Five bytes that spell the name are five characters of one byte each. -/
theorem isLinuxName_iff : isLinuxName cs = true ↔ BeginsWithName cs := by
  simp only [isLinuxName, Option.any_eq_true, firstBytes?_eq_some_iff, beq_iff_eq]
  constructor
  · rintro ⟨five, ⟨rest, parts, -⟩, spelled⟩
    have ascii : ∀ c ∈ five, c.toNat < 128 := by
      intro c member
      have known : ∀ d ∈ linuxName, d.toNat < 128 := by simp [linuxName]
      apply toNat_lt_of_toLower
      apply known
      rw [← spelled]
      exact List.mem_map_of_mem member
    have length : five.length = 5 := by
      rw [← List.length_map Char.toLower, spelled]
      rfl
    exact ⟨five, rest, parts, length, ascii, spelled⟩
  · rintro ⟨five, rest, parts, length, ascii, spelled⟩
    exact ⟨five, ⟨rest, parts, (utf8ByteSize_of_ascii ascii).trans length⟩, spelled⟩

/-- A text whose first five bytes are no whole characters does not begin with the name. -/
theorem not_beginsWithName (inside : ¬ (⟨5⟩ : String.Pos.Raw).IsValid (String.ofList cs)) :
    ¬ BeginsWithName cs := by
  rintro ⟨five, rest, rfl, length, ascii, -⟩
  apply inside
  rw [← isSome_firstBytes?_iff, Option.isSome_iff_exists]
  exact ⟨five, firstBytes?_eq_some_iff.mpr ⟨rest, rfl, (utf8ByteSize_of_ascii ascii).trans length⟩⟩

theorem ofName_eq_linux_iff {s : String} :
    ofName s = linux ↔ BeginsWithName (Text.trim s.toList) := by
  rw [← isLinuxName_iff, ofName]
  split <;> simp_all

theorem ofName_eq_unsupported_iff {s : String} :
    ofName s = unsupported (.ofList (Text.trim s.toList)) ↔
      ¬ BeginsWithName (Text.trim s.toList) := by
  rw [← isLinuxName_iff, ofName]
  split <;> simp_all

theorem ofName_name_ofName (s : String) : ofName (ofName s).name = ofName s := by
  by_cases supported : BeginsWithName (Text.trim s.toList)
  · rw [ofName_eq_linux_iff.mpr supported]
    rfl
  · rw [ofName_eq_unsupported_iff.mpr supported, name]
    have again := @ofName_eq_unsupported_iff (.ofList (Text.trim s.toList))
    rw [String.toList_ofList, Text.trim_trim] at again
    exact again.mpr supported

/-- A name stands for the supported system when, without the blanks around it, it begins with five
ASCII characters that spell `linux` in any case, and for the system of the trimmed name otherwise:
also when a character lies across its first five bytes or it is shorter.  The name of the platform
stands for the same platform. -/
theorem ofName_determined (s : String) :
    ∃ trimmed, Text.Trimmed s.toList trimmed ∧
      (∀ other, Text.Trimmed s.toList other → other = trimmed) ∧
      (ofName s = linux ↔ BeginsWithName trimmed) ∧
      (ofName s = unsupported (.ofList trimmed) ↔ ¬ BeginsWithName trimmed) ∧
      (¬ (⟨5⟩ : String.Pos.Raw).IsValid (String.ofList trimmed) →
        ofName s = unsupported (.ofList trimmed)) ∧
      ofName (ofName s).name = ofName s := by
  refine ⟨Text.trim s.toList, Text.trimmed_trim s.toList, ?only, ofName_eq_linux_iff,
    ofName_eq_unsupported_iff, ?inside, ofName_name_ofName s⟩
  case only =>
    intro other trimmed
    exact Text.trimmed_iff.mp trimmed
  case inside =>
    intro inside
    exact ofName_eq_unsupported_iff.mpr (not_beginsWithName inside)

/-- The last character of this name has three bytes, of which the first is the fifth of the name. -/
theorem ofName_of_cut_character :
    ¬ (⟨5⟩ : String.Pos.Raw).IsValid (String.ofList ['l', 'i', 'n', 'u', '€']) ∧
    ofName (.ofList ['\u2003', 'l', 'i', 'n', 'u', '€', ' ']) =
      unsupported (.ofList ['l', 'i', 'n', 'u', '€']) := by
  have inside : ¬ (⟨5⟩ : String.Pos.Raw).IsValid (String.ofList ['l', 'i', 'n', 'u', '€']) := by
    rw [← isSome_firstBytes?_iff]
    decide
  obtain ⟨trimmed, isTrimmed, -, -, -, unsupported, -⟩ :=
    ofName_determined (.ofList ['\u2003', 'l', 'i', 'n', 'u', '€', ' '])
  rw [Text.trimmed_iff, String.toList_ofList] at isTrimmed
  have left : trimmed = ['l', 'i', 'n', 'u', '€'] := isTrimmed.trans (by decide)
  subst left
  exact ⟨inside, unsupported inside⟩

end ProcessAccounting.Platform
