/-
This file states what percent escapes stand for and shows that the decoder follows it: it decodes
every run of escapes by itself, although it reads whole runs of ASCII text.
-/

import SvgComponent.Proofs.Query.Percent

namespace SvgComponent.Query.Percent

open Text

/-- A segment of a text is a character that stands for itself or the bytes of a run of escapes. -/
inductive Segment where
  | raw (c : Char)
  | run (encoded : List UInt8)

/-- Each escape is a percent sign and two hexadecimal digits, and stands for one byte. -/
inductive Spells : List Char → List UInt8 → Prop
  | nil : Spells [] []
  | escape {first second : Char} {high low : Nat} {written : List Char} {encoded : List UInt8}
      (upper : Hexadecimal.digit? first = some high) (lower : Hexadecimal.digit? second = some low)
      (others : Spells written encoded) :
      Spells ('%' :: first :: second :: written) (UInt8.ofNat (16 * high + low) :: encoded)

/-- A text is cut into raw characters and runs of escapes. A run takes all escapes that follow each
other. -/
inductive IsCut : List Char → List Segment → Prop
  | nil : IsCut [] []
  | raw {c : Char} {rest : List Char} {segments : List Segment} (other : c ≠ '%')
      (others : IsCut rest segments) : IsCut (c :: rest) (.raw c :: segments)
  | run {written rest : List Char} {encoded : List UInt8} {segments : List Segment}
      (present : encoded ≠ []) (spelled : Spells written encoded)
      (maximal : rest.head? ≠ some '%') (others : IsCut rest segments) :
      IsCut (written ++ rest) (.run encoded :: segments)

/-- Bytes are well-formed if they are the encoding of characters. There is one encoding of each
character, the shortest one, and no character is a surrogate. -/
def IsUtf8 (encoded : List UInt8) : Prop :=
  ∃ characters : List Char, encoded = characters.flatMap String.utf8EncodeChar

/-- Segments denote a text if the bytes of each run encode its part of the text. -/
inductive Denotes : List Segment → List Char → Prop
  | nil : Denotes [] []
  | raw (c : Char) {segments : List Segment} {text : List Char} (others : Denotes segments text) :
      Denotes (.raw c :: segments) (c :: text)
  | run (characters : List Char) {segments : List Segment} {text : List Char}
      (others : Denotes segments text) :
      Denotes (.run (characters.flatMap String.utf8EncodeChar) :: segments) (characters ++ text)

/-- Two hexadecimal digits follow a percent sign. -/
def BeginsDigits (text : List Char) : Prop :=
  ∃ first second rest, text = first :: second :: rest ∧
    Hexadecimal.isDigit first = true ∧ Hexadecimal.isDigit second = true

/-- Every percent sign of a text begins an escape. -/
def IsEscaped (text : List Char) : Prop :=
  ∀ front back, text = front ++ '%' :: back → BeginsDigits back

/-- A character that is no ASCII has no byte that is ASCII. -/
theorem utf8EncodeChar_other {c : Char} (other : isAscii c = false) :
    ∀ byte ∈ String.utf8EncodeChar c, 0x80 ≤ byte.toNat := by
  have size : ¬ c.val.toNat ≤ 127 := by
    have large := of_decide_eq_false other
    exact fun small => large (Nat.lt_succ_of_le small)
  unfold String.utf8EncodeChar
  simp only [if_neg size]
  split_ifs <;> simp <;> omega

/-- ASCII characters are told apart by their bytes. -/
theorem eq_of_byte {c d : Char} (ascii : isAscii c = true) (other : isAscii d = true)
    (same : UInt8.ofNat c.toNat = UInt8.ofNat d.toNat) : c = d := by
  have first : c.toNat < 0x80 := of_decide_eq_true ascii
  have second : d.toNat < 0x80 := of_decide_eq_true other
  have codes := congrArg UInt8.toNat same
  rw [UInt8.toNat_ofNat', UInt8.toNat_ofNat'] at codes
  exact Char.toNat_inj.mp (by omega)

theorem text?_eq_some_iff (encoded : List UInt8) (characters : List Char) :
    text? encoded = some characters ↔ encoded = characters.flatMap String.utf8EncodeChar := by
  constructor
  · intro found
    obtain ⟨text, decoded, rfl⟩ := Option.map_eq_some_iff.mp found
    rw [String.fromUTF8?] at decoded
    split at decoded
    · have bytes : text.toList.utf8Encode = ⟨encoded.toArray⟩ := by
        rw [String.utf8Encode_toList, ← Option.some.inj decoded]
        rfl
      rw [List.utf8Encode, ByteArray.ext_iff, List.data_toByteArray] at bytes
      exact (List.toArray_inj bytes).symm
    · contradiction
  · rintro rfl
    exact text?_utf8 characters

/-- Characters are encoded apart before and after an ASCII byte. -/
theorem exists_between {c : Char} (ascii : isAscii c = true) {characters : List Char}
    {front back : List UInt8}
    (encoded : characters.flatMap String.utf8EncodeChar = front ++ UInt8.ofNat c.toNat :: back) :
    ∃ before after, characters = before ++ c :: after ∧
      front = before.flatMap String.utf8EncodeChar ∧
        back = after.flatMap String.utf8EncodeChar := by
  induction characters generalizing front with
  | nil => simp at encoded
  | cons d characters inductionHypothesis =>
      rw [List.flatMap_cons] at encoded
      rcases List.append_eq_append_iff.mp encoded with ⟨late, rfl, others⟩ | ⟨early, here, rest⟩
      · obtain ⟨before, after, rfl, rfl, rfl⟩ := inductionHypothesis others
        exact ⟨d :: before, after, rfl, rfl, rfl⟩
      · cases early with
        | nil =>
            have begins : characters.flatMap String.utf8EncodeChar =
                [] ++ UInt8.ofNat c.toNat :: back := rest.symm
            obtain ⟨before, after, rfl, none, rfl⟩ := inductionHypothesis begins
            refine ⟨d :: before, after, rfl, ?_, rfl⟩
            rw [List.flatMap_cons, ← none, List.append_nil, here, List.append_nil]
        | cons byte early =>
            -- The byte belongs to the character, which therefore is the ASCII one.
            obtain ⟨rfl, rfl⟩ := List.cons.inj rest
            have small : isAscii d = true := by
              by_contra other
              have large := utf8EncodeChar_other (Bool.eq_false_iff.mpr other) _
                (here ▸ List.mem_append_right front List.mem_cons_self)
              have code : c.toNat < 0x80 := of_decide_eq_true ascii
              rw [UInt8.toNat_ofNat'] at large
              omega
            rw [utf8EncodeChar_ascii small, List.singleton_eq_append_iff] at here
            rcases here with ⟨rfl, single⟩ | ⟨-, nothing⟩
            · obtain ⟨same, rfl⟩ := List.cons.inj single
              obtain rfl := eq_of_byte ascii small same
              exact ⟨[], characters, rfl, rfl, rfl⟩
            · contradiction

/-- The bytes before an ASCII byte and those after it are decoded by themselves. -/
theorem text?_between {c : Char} (ascii : isAscii c = true) (front back : List UInt8) :
    text? (front ++ UInt8.ofNat c.toNat :: back) =
      (text? front).bind fun before => (text? back).map fun after => before ++ c :: after := by
  apply Option.ext
  intro characters
  simp only [Option.bind_eq_some_iff, Option.map_eq_some_iff, text?_eq_some_iff]
  constructor
  · intro encoded
    obtain ⟨before, after, rfl, rfl, rfl⟩ := exists_between ascii encoded.symm
    exact ⟨before, rfl, after, rfl, rfl⟩
  · rintro ⟨before, rfl, after, rfl, rfl⟩
    rw [List.flatMap_append, List.flatMap_cons, utf8EncodeChar_ascii ascii, List.singleton_append]

theorem text?_cons {c : Char} (ascii : isAscii c = true) (back : List UInt8) :
    text? (UInt8.ofNat c.toNat :: back) = (text? back).map (c :: ·) := by
  have nothing : text? [] = some [] := text?_utf8 []
  rw [← List.nil_append (_ :: back), text?_between ascii, nothing]
  rfl

/-- Two digits are read as a byte. -/
theorem read?_two_iff (text : List Char) (byte : Nat) (rest : List Char) :
    Hexadecimal.read? 2 text = some (byte, rest) ↔
      ∃ first second high low, text = first :: second :: rest ∧
        Hexadecimal.digit? first = some high ∧ Hexadecimal.digit? second = some low ∧
          byte = 16 * high + low := by
  rcases text with _ | ⟨first, _ | ⟨second, text⟩⟩
  · simp [Hexadecimal.read?]
  · simp [Hexadecimal.read?]
  · cases upper : Hexadecimal.digit? first <;> cases lower : Hexadecimal.digit? second <;>
      simp [Hexadecimal.read?, Hexadecimal.isDigit, Hexadecimal.value, upper, lower]
    exact and_comm.trans (and_congr_right fun _ => eq_comm)

/-- The bytes of escapes come before those of the text after them. -/
theorem Spells.bytes_append {written : List Char} {encoded : List UInt8}
    (spelled : Spells written encoded) (rest : List Char) :
    bytes (written ++ rest).length (written ++ rest) = encoded ++ bytes rest.length rest := by
  induction spelled with
  | nil => rfl
  | @escape first second high low written encoded upper lower others inductionHypothesis =>
      have read := (read?_two_iff (first :: second :: (written ++ rest)) _ _).mpr
        ⟨first, second, high, low, rfl, upper, lower, rfl⟩
      simp only [List.cons_append, List.length_cons, bytes, if_pos, read]
      rw [bytes_enough (by omega), inductionHypothesis]

theorem isDigit_of_digit? {c : Char} {number : Nat} (digit : Hexadecimal.digit? c = some number) :
    Hexadecimal.isDigit c = true :=
  Option.isSome_of_eq_some digit

theorem digit?_isAscii {c : Char} {number : Nat} (digit : Hexadecimal.digit? c = some number) :
    isAscii c = true := by
  apply decide_eq_true
  unfold Hexadecimal.digit? at digit
  split_ifs at digit with decimal small capital
  · exact Nat.lt_of_le_of_lt (show c.toNat ≤ '9'.toNat from decimal.2) (by decide)
  · exact Nat.lt_of_le_of_lt (show c.toNat ≤ 'f'.toNat from small.2) (by decide)
  · exact Nat.lt_of_le_of_lt (show c.toNat ≤ 'F'.toNat from capital.2) (by decide)

theorem Spells.isAscii {written : List Char} {encoded : List UInt8}
    (spelled : Spells written encoded) : ∀ c ∈ written, isAscii c = true := by
  induction spelled with
  | nil => exact nofun
  | escape upper lower others inductionHypothesis =>
      exact List.forall_mem_cons.mpr ⟨rfl, List.forall_mem_cons.mpr ⟨digit?_isAscii upper,
        List.forall_mem_cons.mpr ⟨digit?_isAscii lower, inductionHypothesis⟩⟩⟩

/-- The decoder with as many steps as there are characters. -/
def decodeText? (text : List Char) : Option (List Char) :=
  decodeRuns? text.length text

theorem decodeRuns?_enough {text : List Char} {fuel : Nat} (enough : text.length ≤ fuel) :
    decodeRuns? fuel text = decodeText? text := by
  apply steps_enough _ _ enough
  · intro fuel
    cases fuel <;> rfl
  · intro first second c rest shorter
    simp only [decodeRuns?, shorter rest (Nat.le_refl _)]
    split
    · case _ ascii =>
        rw [List.dropWhile_cons_of_pos ascii, shorter _ (List.length_dropWhile_le _ _)]
    · rfl

/-- The first run of ASCII characters is decoded before the text after it. -/
theorem decodeText?_run (text : List Char) :
    decodeText? text =
      (text? (bytes (text.takeWhile isAscii).length (text.takeWhile isAscii))).bind fun front =>
        (decodeText? (text.dropWhile isAscii)).map (front ++ ·) := by
  have nothing : text? [] = some [] := text?_utf8 []
  cases text with
  | nil => simp [decodeText?, decodeRuns?, bytes, nothing]
  | cons c rest =>
      by_cases ascii : isAscii c = true
      · have shorter : ((c :: rest).dropWhile isAscii).length ≤ rest.length := by
          rw [List.dropWhile_cons_of_pos ascii]
          exact List.length_dropWhile_le _ _
        rw [decodeText?, List.length_cons, decodeRuns?, if_pos ascii, decodeRuns?_enough shorter]
        simp only [Option.map_eq_bind]
        rfl
      · rw [List.takeWhile_cons_of_neg ascii, List.dropWhile_cons_of_neg ascii]
        simp [bytes, nothing]

theorem decodeText?_other {c : Char} (other : isAscii c = false) (rest : List Char) :
    decodeText? (c :: rest) = (decodeText? rest).map (c :: ·) := by
  simp [decodeText?, decodeRuns?, other]

/-- Every raw character stands for itself. -/
theorem decodeText?_raw {c : Char} (raw : c ≠ '%') (rest : List Char) :
    decodeText? (c :: rest) = (decodeText? rest).map (c :: ·) := by
  cases ascii : isAscii c with
  | false => exact decodeText?_other ascii rest
  | true =>
      rw [decodeText?_run (c :: rest), decodeText?_run rest, List.takeWhile_cons_of_pos ascii,
        List.dropWhile_cons_of_pos ascii, bytes_plain raw, text?_cons ascii]
      cases text? (bytes (rest.takeWhile isAscii).length (rest.takeWhile isAscii)) with
      | none => rfl
      | some front => simp [Function.comp_def]

/-- Bytes are decoded by themselves before ASCII text that begins with no escape. -/
theorem text?_append (encoded : List UInt8) {text : List Char}
    (ascii : ∀ c ∈ text, isAscii c = true) (unescaped : text.head? ≠ some '%') :
    text? (encoded ++ bytes text.length text) =
      (text? encoded).bind fun front => (text? (bytes text.length text)).map (front ++ ·) := by
  cases text with
  | nil =>
      have nothing : text? [] = some [] := text?_utf8 []
      cases found : text? encoded <;> simp [bytes, nothing, found]
  | cons c text =>
      have raw : c ≠ '%' := fun same => unescaped (congrArg some same)
      have first := ascii c List.mem_cons_self
      rw [bytes_plain raw, text?_between first, text?_cons first]
      simp [Function.comp_def]

/-- A run of escapes is decoded by itself if none follows it. -/
theorem decodeText?_spelled {written rest : List Char} {encoded : List UInt8}
    (spelled : Spells written encoded) (maximal : rest.head? ≠ some '%') :
    decodeText? (written ++ rest) =
      (text? encoded).bind fun front => (decodeText? rest).map (front ++ ·) := by
  have ascii : ∀ c ∈ rest.takeWhile isAscii, isAscii c = true :=
    fun c member => List.mem_takeWhile_imp member
  have unescaped : (rest.takeWhile isAscii).head? ≠ some '%' := by
    rw [List.head?_takeWhile]
    intro first
    exact maximal (Option.filter_eq_some_iff.mp first).1
  rw [decodeText?_run, List.takeWhile_append_of_pos spelled.isAscii,
    List.dropWhile_append_of_pos spelled.isAscii, spelled.bytes_append,
    text?_append encoded ascii unescaped, decodeText?_run rest]
  simp [Function.comp_def, Option.bind_assoc, Option.bind_map, Option.map_bind]

/-- The decoder follows the segments of a text. -/
theorem IsCut.decodeText?_eq_some_iff {text : List Char} {segments : List Segment}
    (cut : IsCut text segments) (result : List Char) :
    decodeText? text = some result ↔ Denotes segments result := by
  induction cut generalizing result with
  | nil =>
      constructor
      · intro found
        obtain rfl := Option.some.inj found
        exact .nil
      · rintro ⟨⟩
        rfl
  | @raw c rest segments other others inductionHypothesis =>
      rw [decodeText?_raw other, Option.map_eq_some_iff]
      constructor
      · rintro ⟨text, found, rfl⟩
        exact .raw c ((inductionHypothesis text).mp found)
      · rintro (_ | ⟨_, denoted⟩)
        exact ⟨_, (inductionHypothesis _).mpr denoted, rfl⟩
  | run present spelled maximal others inductionHypothesis =>
      rw [decodeText?_spelled spelled maximal, Option.bind_eq_some_iff]
      simp only [Option.map_eq_some_iff, text?_eq_some_iff, inductionHypothesis]
      constructor
      · rintro ⟨front, rfl, back, denoted, rfl⟩
        exact .run front denoted
      · rintro (_ | _ | ⟨front, denoted⟩)
        exact ⟨front, rfl, _, denoted, rfl⟩

/-- Segments denote a text exactly if the bytes of all runs are well-formed. -/
theorem exists_denoted_iff (segments : List Segment) :
    (∃ result, Denotes segments result) ↔
      ∀ encoded, .run encoded ∈ segments → IsUtf8 encoded := by
  induction segments with
  | nil => exact ⟨fun _ => nofun, fun _ => ⟨[], .nil⟩⟩
  | cons segment segments inductionHypothesis =>
      constructor
      · rintro ⟨result, denoted⟩ encoded member
        cases denoted with
        | raw c others =>
            rcases List.mem_cons.mp member with same | later
            · contradiction
            · exact inductionHypothesis.mp ⟨_, others⟩ encoded later
        | run characters others =>
            rcases List.mem_cons.mp member with same | later
            · exact ⟨characters, Segment.run.inj same⟩
            · exact inductionHypothesis.mp ⟨_, others⟩ encoded later
      · intro each
        obtain ⟨text, others⟩ := inductionHypothesis.mpr fun encoded member =>
          each encoded (List.mem_cons_of_mem _ member)
        cases segment with
        | raw c => exact ⟨_, .raw c others⟩
        | run encoded =>
            obtain ⟨characters, rfl⟩ := each encoded List.mem_cons_self
            exact ⟨_, .run characters others⟩

/-- An escape joins the run that follows it. -/
theorem IsCut.escape {first second : Char} {high low : Nat}
    (upper : Hexadecimal.digit? first = some high) (lower : Hexadecimal.digit? second = some low)
    {rest : List Char} {segments : List Segment} (cut : IsCut rest segments) :
    ∃ segments, IsCut ('%' :: first :: second :: rest) segments := by
  cases cut with
  | nil => exact ⟨_, .run (List.cons_ne_nil _ _) (.escape upper lower .nil) nofun .nil⟩
  | raw other others =>
      have maximal : ∀ rest : List Char, (_ :: rest).head? ≠ some '%' := fun _ same =>
        other (Option.some.inj same)
      exact ⟨_, .run (List.cons_ne_nil _ _) (.escape upper lower .nil) (maximal _)
        (.raw other others)⟩
  | run present spelled maximal others =>
      exact ⟨_, .run (List.cons_ne_nil _ _) (.escape upper lower spelled) maximal others⟩

theorem isEscaped_cons_iff (c : Char) (text : List Char) :
    IsEscaped (c :: text) ↔ (c = '%' → BeginsDigits text) ∧ IsEscaped text := by
  constructor
  · intro escaped
    refine ⟨?_, fun front back whole => escaped (c :: front) back (congrArg (c :: ·) whole)⟩
    rintro rfl
    exact escaped [] text rfl
  · rintro ⟨first, later⟩ front back whole
    cases front with
    | nil =>
        obtain ⟨rfl, rfl⟩ := List.cons.inj whole
        exact first rfl
    | cons d front => exact later front back (List.cons.inj whole).2

theorem isSome_read?_iff (text : List Char) :
    (Hexadecimal.read? 2 text).isSome = true ↔ BeginsDigits text := by
  rw [Option.isSome_iff_exists, Prod.exists]
  constructor
  · rintro ⟨byte, rest, found⟩
    obtain ⟨first, second, high, low, rfl, upper, lower, -⟩ := (read?_two_iff text _ _).mp found
    exact ⟨first, second, rest, rfl, isDigit_of_digit? upper, isDigit_of_digit? lower⟩
  · rintro ⟨first, second, rest, rfl, upper, lower⟩
    obtain ⟨high, upper⟩ := Option.isSome_iff_exists.mp upper
    obtain ⟨low, lower⟩ := Option.isSome_iff_exists.mp lower
    exact ⟨_, _, (read?_two_iff _ _ _).mpr ⟨first, second, high, low, rfl, upper, lower, rfl⟩⟩

theorem isWellFormed_iff (text : List Char) : isWellFormed text = true ↔ IsEscaped text := by
  induction text with
  | nil => simp [isWellFormed, IsEscaped]
  | cons c text inductionHypothesis =>
      rw [isEscaped_cons_iff, isWellFormed, Bool.and_eq_true, inductionHypothesis, Bool.or_eq_true,
        isSome_read?_iff, bne_iff_ne, ← Decidable.imp_iff_not_or]

/-- A text is cut if all its percent signs begin escapes. -/
theorem exists_isCut {text : List Char} (escaped : IsEscaped text) :
    ∃ segments, IsCut text segments := by
  induction size : text.length using Nat.strongRecOn generalizing text with
  | ind size inductionHypothesis =>
      subst size
      cases text with
      | nil => exact ⟨_, .nil⟩
      | cons c text =>
          obtain ⟨here, later⟩ := (isEscaped_cons_iff c text).mp escaped
          by_cases other : c = '%'
          · obtain ⟨first, second, rest, rfl, upper, lower⟩ := here other
            obtain ⟨high, upper⟩ := Option.isSome_iff_exists.mp upper
            obtain ⟨low, lower⟩ := Option.isSome_iff_exists.mp lower
            have remaining : IsEscaped rest :=
              ((isEscaped_cons_iff _ _).mp ((isEscaped_cons_iff _ _).mp later).2).2
            have shorter : rest.length < (c :: first :: second :: rest).length := by
              simp only [List.length_cons]
              omega
            obtain ⟨segments, cut⟩ := inductionHypothesis _ shorter remaining rfl
            exact other ▸ cut.escape upper lower
          · obtain ⟨segments, cut⟩ := inductionHypothesis _ (Nat.lt_succ_self _) later rfl
            exact ⟨_, .raw other cut⟩

theorem Spells.isEscaped_append {written rest : List Char} {encoded : List UInt8}
    (spelled : Spells written encoded) (escaped : IsEscaped rest) :
    IsEscaped (written ++ rest) := by
  induction spelled with
  | nil => exact escaped
  | @escape first second high low written encoded upper lower others inductionHypothesis =>
      have unequal {c : Char} {number : Nat} (digit : Hexadecimal.digit? c = some number) :
          c ≠ '%' := by
        rintro rfl
        contradiction
      simp only [List.cons_append, isEscaped_cons_iff]
      exact ⟨fun _ => ⟨first, second, _, rfl, isDigit_of_digit? upper, isDigit_of_digit? lower⟩,
        fun same => absurd same (unequal upper), fun same => absurd same (unequal lower),
        inductionHypothesis⟩

theorem IsCut.isEscaped {text : List Char} {segments : List Segment} (cut : IsCut text segments) :
    IsEscaped text := by
  induction cut with
  | nil => exact fun front back whole => by simp at whole
  | raw other others inductionHypothesis =>
      exact (isEscaped_cons_iff _ _).mpr ⟨fun same => absurd same other, inductionHypothesis⟩
  | run present spelled maximal others inductionHypothesis =>
      exact spelled.isEscaped_append inductionHypothesis

/-- A text whose percent signs all begin escapes is decoded, or its bytes are not well-formed. -/
theorem decode_escaped {text : List Char} (escaped : IsEscaped text) :
    decode text = (decodeText? text).elim (.error .invalidEncoding) .ok := by
  rw [decode, if_pos ((isWellFormed_iff text).mpr escaped), ← decodeText?]
  cases decodeText? text <;> rfl

theorem decode_malformed_iff (text : List Char) :
    decode text = .error .malformedEscape ↔ ¬ IsEscaped text := by
  constructor
  · intro outcome escaped
    rw [decode_escaped escaped] at outcome
    cases found : decodeText? text <;> simp [found] at outcome
  · intro malformed
    rw [decode, if_neg ((isWellFormed_iff text).not.mpr malformed)]

theorem decode_eq_ok_iff (text result : List Char) :
    decode text = .ok result ↔ ∃ segments, IsCut text segments ∧ Denotes segments result := by
  by_cases escaped : IsEscaped text
  · obtain ⟨segments, cut⟩ := exists_isCut escaped
    have decoded : decode text = .ok result ↔ decodeText? text = some result := by
      rw [decode_escaped escaped]
      cases decodeText? text <;> simp
    rw [decoded]
    constructor
    · exact fun found => ⟨segments, cut, (cut.decodeText?_eq_some_iff result).mp found⟩
    · rintro ⟨segments, cut, denoted⟩
      exact (cut.decodeText?_eq_some_iff result).mpr denoted
  · rw [(decode_malformed_iff text).mpr escaped]
    constructor
    · exact nofun
    · rintro ⟨segments, cut, -⟩
      exact absurd cut.isEscaped escaped

/-- All cuts of a text agree on whether their runs are well-formed. -/
theorem exists_decoded_iff (text : List Char) :
    (∃ result, decode text = .ok result) ↔ IsEscaped text ∧
      ∀ segments, IsCut text segments → ∀ encoded, .run encoded ∈ segments → IsUtf8 encoded := by
  simp only [decode_eq_ok_iff, ← exists_denoted_iff]
  constructor
  · rintro ⟨result, segments, cut, denoted⟩
    refine ⟨cut.isEscaped, fun others otherCut => ⟨result, ?_⟩⟩
    rwa [← otherCut.decodeText?_eq_some_iff, cut.decodeText?_eq_some_iff]
  · rintro ⟨escaped, each⟩
    obtain ⟨segments, cut⟩ := exists_isCut escaped
    obtain ⟨result, denoted⟩ := each segments cut
    exact ⟨result, segments, cut, denoted⟩

theorem decode_invalid_iff (text : List Char) :
    decode text = .error .invalidEncoding ↔
      ∃ segments, IsCut text segments ∧ ∃ encoded, .run encoded ∈ segments ∧ ¬ IsUtf8 encoded := by
  constructor
  · intro outcome
    have failed : ¬ ∃ result, decode text = .ok result := by
      rintro ⟨result, decoded⟩
      exact nomatch outcome.symm.trans decoded
    have escaped : IsEscaped text := by
      by_contra malformed
      exact nomatch outcome.symm.trans ((decode_malformed_iff text).mpr malformed)
    rw [exists_decoded_iff] at failed
    push Not at failed
    exact failed escaped
  · rintro ⟨segments, cut, encoded, member, invalid⟩
    cases outcome : decode text with
    | ok result =>
        have valid := ((exists_decoded_iff text).mp ⟨result, outcome⟩).2 segments cut
        exact absurd (valid encoded member) invalid
    | error fault =>
        cases fault with
        | malformedEscape => exact absurd cut.isEscaped ((decode_malformed_iff text).mp outcome)
        | invalidEncoding => rfl

end Percent

open Percent

/-- Decoding succeeds exactly if every percent sign begins an escape and the bytes of every run of
escapes are well-formed. The result has the characters of each run in its place, and all other
characters as they are. A malformed escape is reported before any run. -/
theorem decode_outcomes (component : List Char) :
    (∀ result, decode component = .ok result ↔
      ∃ segments, IsCut component segments ∧ Denotes segments result.toList) ∧
    ((∃ result, decode component = .ok result) ↔ IsEscaped component ∧
      ∀ segments, IsCut component segments →
        ∀ encoded, .run encoded ∈ segments → IsUtf8 encoded) ∧
    (decode component = .error (.malformedEscape (String.ofList component)) ↔
      ¬ IsEscaped component) ∧
    (decode component = .error (.invalidEncoding (String.ofList component)) ↔
      ∃ segments, IsCut component segments ∧
        ∃ encoded, .run encoded ∈ segments ∧ ¬ IsUtf8 encoded) ∧
    ∀ text, decode (encode text) = .ok text := by
  rw [← decode_malformed_iff, ← decode_invalid_iff, ← exists_decoded_iff]
  simp only [← decode_eq_ok_iff]
  cases outcome : Percent.decode component with
  | ok text =>
      have decoded : decode component = .ok (String.ofList text) := by rw [decode, outcome]
      have same (result : String) : String.ofList text = result ↔ text = result.toList := by
        rw [← String.toList_inj, String.toList_ofList]
      have spelled : ∃ result : String, text = result.toList :=
        ⟨String.ofList text, String.toList_ofList.symm⟩
      simp [decoded, same, spelled, decode_encode]
  | error fault =>
      cases fault with
      | malformedEscape =>
          have decoded :
              decode component = .error (.malformedEscape (String.ofList component)) := by
            rw [decode, outcome]
          simp [decoded, decode_encode]
      | invalidEncoding =>
          have decoded :
              decode component = .error (.invalidEncoding (String.ofList component)) := by
            rw [decode, outcome]
          simp [decoded, decode_encode]

end SvgComponent.Query
