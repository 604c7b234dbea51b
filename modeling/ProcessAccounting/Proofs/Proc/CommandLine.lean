import ProcessAccounting.Proc.CommandLine
import ProcessAccounting.Proofs.Text.Separators
import ProcessAccounting.Proofs.Text.Utf8

/-!
# Command lines of arguments

A zero byte keeps the arguments on its two sides apart, and no argument is shown as nothing.  So the
command line of bytes around a zero byte is made of the command lines of the two sides, and zero
bytes beyond that leave no trace.  Arguments that are written as UTF-8 are read back.  Bytes that
are not UTF-8 do not make the order of cutting and decoding matter.
-/

namespace ProcessAccounting.Proc.CommandLine

/-- Arguments as the proc file system gives them: each in UTF-8, with a zero byte after it. -/
def written (strings : List String) : List UInt8 :=
  strings.flatMap fun s => s.toUTF8.data.toList ++ [0]

@[simp] theorem arguments_append_zero (a b : List UInt8) :
    arguments (a ++ 0 :: b) = arguments a ++ arguments b := by
  simp [arguments, Text.filledPieces_append]

@[simp] theorem arguments_nil : arguments [] = [] := rfl

@[simp] theorem arguments_cons_zero (a : List UInt8) : arguments (0 :: a) = arguments a := by
  simpa using arguments_append_zero [] a

theorem arguments_replicate_append (n : Nat) (a : List UInt8) :
    arguments (List.replicate n 0 ++ a) = arguments a := by
  induction n with
  | zero => rfl
  | succ n ih => simp [List.replicate_succ, ih]

theorem arguments_append_replicate (n : Nat) (a : List UInt8) :
    arguments (a ++ List.replicate n 0) = arguments a := by
  cases n with
  | zero => simp
  | succ n =>
    have rest := arguments_replicate_append n []
    simp only [List.append_nil, arguments_nil] at rest
    simp [List.replicate_succ, rest]

/-- Bytes without a zero byte are one argument. -/
theorem arguments_singleton {a : List UInt8} (filled : a ≠ []) (solid : 0 ∉ a) :
    arguments a = [Text.Lossy.decode a] := by
  have apart : ∀ b ∈ a, (b == 0) = false := by
    intro b member
    apply beq_eq_false_iff_ne.mpr
    exact ne_of_mem_of_not_mem member solid
  simp [arguments, Text.filledPieces, Text.pieces_eq_singleton _ a apart, filled]

theorem ne_nil_of_mem_arguments {a : List UInt8} {argument : List Char}
    (member : argument ∈ arguments a) : argument ≠ [] := by
  obtain ⟨piece, inside, rfl⟩ := List.mem_map.mp member
  have filled : piece ≠ [] := by simpa using (List.mem_filter.mp inside).2
  exact Text.Lossy.decode_ne_nil filled

theorem text_eq_intercalate (a : List UInt8) :
    text a = " ".intercalate ((arguments a).map String.ofList) := by
  apply String.toList_inj.mp
  simp [text, characters, Function.comp_def]

/-- Only without any argument is nothing shown. -/
theorem text_eq_empty_iff (a : List UInt8) : text a = "" ↔ arguments a = [] := by
  constructor
  · intro empty
    cases shown : arguments a with
    | nil => rfl
    | cons argument others =>
      have filled : argument ≠ [] := ne_nil_of_mem_arguments (a := a) (by simp [shown])
      have characters_nil : characters a = [] := by simpa [text] using empty
      rw [characters, shown] at characters_nil
      cases others with
      | nil => simp [filled] at characters_nil
      | cons next others => simp [filled] at characters_nil
  · intro none_shown
    simp [text_eq_intercalate, none_shown]

/-- The command line of two sides of a zero byte. -/
theorem text_append_zero (a b : List UInt8) :
    text (a ++ 0 :: b) =
      if text b = "" then text a else if text a = "" then text b
      else text a ++ " " ++ text b := by
  rw [text_eq_intercalate (a ++ 0 :: b), arguments_append_zero, List.map_append]
  by_cases right : arguments b = []
  · simp [(text_eq_empty_iff b).mpr right, right, text_eq_intercalate a]
  have right_shown : text b ≠ "" := by rwa [Ne, text_eq_empty_iff]
  rw [if_neg right_shown]
  by_cases left : arguments a = []
  · simp [(text_eq_empty_iff a).mpr left, left, text_eq_intercalate b]
  have left_shown : text a ≠ "" := by rwa [Ne, text_eq_empty_iff]
  rw [if_neg left_shown, String.intercalate_append_of_ne_nil (by simpa) (by simpa),
    ← text_eq_intercalate, ← text_eq_intercalate]

theorem zero_not_mem_toUTF8 {s : String} (solid : '\x00' ∉ s.toList) :
    0 ∉ s.toUTF8.data.toList := by
  intro member
  apply solid
  rw [← Text.Lossy.decode_toUTF8 s]
  exact Text.Lossy.mem_decode_of_ascii (by decide) member

theorem arguments_toUTF8 {s : String} (filled : s ≠ "") (solid : '\x00' ∉ s.toList) :
    arguments s.toUTF8.data.toList = [s.toList] := by
  have some_bytes : s.toUTF8.data.toList ≠ [] := by
    intro none_left
    have decoded := Text.Lossy.decode_toUTF8 s
    rw [none_left] at decoded
    exact filled (String.toList_eq_nil_iff.mp decoded.symm)
  rw [arguments_singleton some_bytes (zero_not_mem_toUTF8 solid), Text.Lossy.decode_toUTF8]

/-- Arguments that have been written are read back, except for the empty ones. -/
theorem arguments_written {strings : List String} (solid : ∀ s ∈ strings, '\x00' ∉ s.toList) :
    arguments (written strings) = (strings.filter (· ≠ "")).map String.toList := by
  induction strings with
  | nil => rfl
  | cons s strings ih =>
    have rest := ih fun t member => solid t (List.mem_cons_of_mem s member)
    have first : written (s :: strings) = s.toUTF8.data.toList ++ 0 :: written strings := by
      simp [written]
    rw [first, arguments_append_zero, rest]
    by_cases filled : s = ""
    · simp [filled]
    · rw [arguments_toUTF8 filled (solid s List.mem_cons_self)]
      simp [filled]

theorem text_written {strings : List String} (solid : ∀ s ∈ strings, '\x00' ∉ s.toList) :
    text (written strings) = " ".intercalate (strings.filter (· ≠ "")) := by
  rw [text_eq_intercalate, arguments_written solid, List.map_map]
  simp [Function.comp_def]

/-- A zero byte joins the command lines of its two sides with a space, unless one of them is
empty, which leaves the other.  Zero bytes at the start, at the end or next to others do not
matter.  Arguments written in UTF-8 are shown with single spaces between them, and empty ones
are left out. -/
theorem text_homomorphism :
    (∀ a b : List UInt8, text (a ++ 0 :: b) =
      if text b = "" then text a else if text a = "" then text b
      else text a ++ " " ++ text b) ∧
    (∀ (n : Nat) (a b : List UInt8), text (List.replicate n 0 ++ a) = text a ∧
      text (a ++ List.replicate n 0) = text a ∧
      text (a ++ 0 :: (List.replicate n 0 ++ b)) = text (a ++ 0 :: b)) ∧
    (∀ strings : List String, (∀ s ∈ strings, '\x00' ∉ s.toList) →
      text (written strings) = " ".intercalate (strings.filter (· ≠ ""))) ∧
    ∀ strings : List String, (∀ s ∈ strings, s ≠ "" ∧ '\x00' ∉ s.toList) →
      text (written strings) = " ".intercalate strings := by
  refine ⟨text_append_zero, ?zeros, fun strings => text_written, ?filled⟩
  case zeros =>
    intro n a b
    simp [text_eq_intercalate, arguments_replicate_append, arguments_append_replicate]
  case filled =>
    intro strings each
    have all_kept : strings.filter (· ≠ "") = strings := by
      apply List.filter_eq_self.mpr
      intro s member
      simpa using (each s member).1
    rw [text_written fun s member => (each s member).2, all_kept]

/-- An interpreter with an option and an argument in characters of two, three and four bytes. -/
theorem text_of_three_arguments :
    (∀ s ∈ ["/usr/bin/python3", "-é", "日本🦀"], s ≠ "" ∧ '\x00' ∉ s.toList) ∧
    text (written ["/usr/bin/python3", "-é", "日本🦀"]) = "/usr/bin/python3 -é 日本🦀" := by
  have each : ∀ s ∈ ["/usr/bin/python3", "-é", "日本🦀"], s ≠ "" ∧ '\x00' ∉ s.toList := by
    decide
  obtain ⟨-, -, -, joined⟩ := text_homomorphism
  exact ⟨each, joined _ each⟩

/-- The arguments are the pieces of the decoded text. -/
theorem arguments_eq_splitOn_decode (raw : List UInt8) :
    arguments raw = ((Text.Lossy.decode raw).splitOn '\x00').filter (!·.isEmpty) := by
  have cut : (Text.Lossy.decode raw).splitOn '\x00' = (raw.splitOn 0).map Text.Lossy.decode :=
    Text.Lossy.splitOn_decode (b := 0) (by decide) raw
  have kept : ((!·.isEmpty) ∘ Text.Lossy.decode) = fun piece : List UInt8 => !piece.isEmpty := by
    funext piece
    cases piece with
    | nil => rfl
    | cons b rest => simp [Text.Lossy.decode_ne_nil]
  rw [arguments, Text.filledPieces_eq_splitOn, cut, List.filter_map, kept]

/-- The bytes may as well be decoded as a whole: no zero character appears in what is decoded but
for a zero byte, and none is lost next to an unfinished character, so cutting the text gives what
the arguments decode to, the empty ones among them, and hence the same command line. -/
theorem text_eq_splitOn_decode (raw : List UInt8) :
    (Text.Lossy.decode raw).splitOn '\x00' = (raw.splitOn 0).map Text.Lossy.decode ∧
    text raw = " ".intercalate
      ((((Text.Lossy.decode raw).splitOn '\x00').filter (· ≠ [])).map String.ofList) := by
  refine ⟨Text.Lossy.splitOn_decode (b := 0) (by decide) raw, ?_⟩
  have filled : (fun piece : List Char => decide (piece ≠ [])) = fun piece => !piece.isEmpty := by
    funext piece
    cases piece <;> rfl
  rw [text_eq_intercalate, arguments_eq_splitOn_decode, filled]

/-- Arguments that end inside characters of three and of four bytes, and one that starts inside a
character and holds a surrogate. -/
example : text [0x61, 0xE2, 0x82, 0x00, 0xF0, 0x9F, 0xA6, 0x00, 0x80, 0xED, 0xA0, 0x80] =
    "a\uFFFD \uFFFD \uFFFD\uFFFD\uFFFD\uFFFD" := by
  decide +kernel

end ProcessAccounting.Proc.CommandLine
