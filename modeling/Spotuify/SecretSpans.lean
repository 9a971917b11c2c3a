import Spotuify.SecretReadings

/-!
# Spans of secrets

The functions of the source that take byte offsets agree with the readers at
every offset that starts a rest of the text.
-/

namespace Spotuify.Redaction

variable {char : Char} {byte : UInt8} {text first second : List Char}

theorem isLabelChar_iff : isLabelChar char = true ↔
    (48 ≤ char.toNat ∧ char.toNat ≤ 57) ∨
      (65 ≤ char.toNat ∧ char.toNat ≤ 90) ∨
      (97 ≤ char.toNat ∧ char.toNat ≤ 122) ∨ char.toNat = 95 ∨
      char.toNat = 45 := by
  have underscore : char = '_' ↔ char.toNat = 95 :=
    (Char.toNat_inj (c := char) (d := '_')).symm
  have hyphen : char = '-' ↔ char.toNat = 45 :=
    (Char.toNat_inj (c := char) (d := '-')).symm
  simp only [isLabelChar, Bool.or_eq_true, decide_eq_true_eq,
    Utf8.isAlphanum_iff, underscore, hyphen]
  omega

theorem isSecretLabelChar_iff : isSecretLabelChar byte = true ↔
    (48 ≤ byte.toNat ∧ byte.toNat ≤ 57) ∨
      (65 ≤ byte.toNat ∧ byte.toNat ≤ 90) ∨
      (97 ≤ byte.toNat ∧ byte.toNat ≤ 122) ∨ byte.toNat = 95 ∨
      byte.toNat = 45 := by
  simp [isSecretLabelChar, ascii, UInt8.le_iff_toNat_le, ← UInt8.toNat_inj]

theorem isSpace_iff : isSpace char = true ↔
    char.toNat = 32 ∨ char.toNat = 9 ∨ char.toNat = 10 ∨ char.toNat = 12 ∨
      char.toNat = 13 := by
  simp only [isSpace, List.contains_cons, List.contains_nil, Bool.or_false,
    Bool.or_eq_true, beq_iff_eq, ← Char.toNat_inj]
  change char.toNat = 32 ∨ char.toNat = 9 ∨ char.toNat = 10 ∨
    char.toNat = 12 ∨ char.toNat = 13 ↔ _
  rfl

theorem isAsciiWhitespace_iff : isAsciiWhitespace byte = true ↔
    byte.toNat = 32 ∨ byte.toNat = 9 ∨ byte.toNat = 10 ∨ byte.toNat = 12 ∨
      byte.toNat = 13 := by
  simp [isAsciiWhitespace, ← UInt8.toNat_inj]

theorem isQuote_iff : isQuote char = true ↔
    char.toNat = 39 ∨ char.toNat = 34 := by
  simp only [isQuote, decide_eq_true_eq, ← Char.toNat_inj]
  rfl

theorem isQuoteByte_iff : isQuoteByte byte = true ↔
    byte.toNat = 39 ∨ byte.toNat = 34 := by
  simp [isQuoteByte, ascii, ← UInt8.toNat_inj]

theorem isSecretLabelChar_eq (encodes : Utf8.Encodes char byte) :
    isSecretLabelChar byte = isLabelChar char := by
  rw [Bool.eq_iff_iff, isSecretLabelChar_iff, isLabelChar_iff]
  unfold Utf8.Encodes at encodes
  split at encodes <;> omega

theorem isAsciiWhitespace_eq (encodes : Utf8.Encodes char byte) :
    isAsciiWhitespace byte = isSpace char := by
  rw [Bool.eq_iff_iff, isAsciiWhitespace_iff, isSpace_iff]
  unfold Utf8.Encodes at encodes
  split at encodes <;> omega

theorem isQuoteByte_eq (encodes : Utf8.Encodes char byte) :
    isQuoteByte byte = isQuote char := by
  rw [Bool.eq_iff_iff, isQuoteByte_iff, isQuote_iff]
  unfold Utf8.Encodes at encodes
  split at encodes <;> omega

/-- A character and a byte of it, or neither. -/
inductive Codes : Option Char → Option UInt8 → Prop
  | absent : Codes none none
  | present {char : Char} {byte : UInt8}
    (encodes : Utf8.Encodes char byte) : Codes (some char) (some byte)

theorem codes_head :
    Codes second.head? (Utf8.bytes (first ++ second))[Utf8.size first]? := by
  cases second with
  | nil =>
    rw [List.append_nil, Utf8.getElem?_bytes_nil]
    exact .absent
  | cons char rest =>
    obtain ⟨byte, found, encodes⟩ :=
      @Utf8.getElem?_bytes_cons first rest char
    rw [found]
    exact .present encodes

theorem codes_last :
    Codes first.getLast? (if Utf8.size first > 0 then
      (Utf8.bytes (first ++ second))[Utf8.size first - 1]? else none) := by
  cases first using List.reverseRecOn with
  | nil => exact .absent
  | append_singleton others char =>
    obtain ⟨byte, found, encodes⟩ :=
      @Utf8.getElem?_bytes_concat others second char
    rw [if_pos (Utf8.size_pos (by simp)), found, List.getLast?_concat]
    exact .present encodes

variable {symbol : Option Char} {coded : Option UInt8}

theorem Codes.any_label (codes : Codes symbol coded) :
    coded.any isSecretLabelChar = symbol.any isLabelChar := by
  cases codes with
  | absent => rfl
  | present encodes => exact isSecretLabelChar_eq encodes

theorem Codes.filter_quote (codes : Codes symbol coded) :
    Codes (symbol.filter isQuote) (coded.filter isQuoteByte) := by
  cases codes with
  | absent => exact .absent
  | @present char byte encodes =>
    have same := isQuoteByte_eq encodes
    cases quote : isQuote char with
    | false =>
      rw [Option.filter_some_neg (by simp [quote]),
        Option.filter_some_neg (by simp [same, quote])]
      exact .absent
    | true =>
      rw [Option.filter_some_pos quote,
        Option.filter_some_pos (by rw [same, quote])]
      exact .present encodes

theorem Codes.isSome_eq (codes : Codes symbol coded) :
    coded.isSome = symbol.isSome := by
  cases codes <;> rfl

/-- A byte of an ASCII character is that character's. -/
theorem Codes.eq_iff {other : Option Char} {otherCoded : Option UInt8}
    (codes : Codes symbol coded) (otherCodes : Codes other otherCoded)
    (small : ∀ char ∈ other, char.toNat < 128) :
    coded = otherCoded ↔ symbol = other := by
  cases codes with
  | absent => cases otherCodes <;> simp
  | @present char byte encodes =>
    cases otherCodes with
    | absent => simp
    | @present otherChar otherByte otherEncodes =>
      have smallOther := small otherChar rfl
      unfold Utf8.Encodes at encodes otherEncodes
      rw [if_pos smallOther] at otherEncodes
      rw [Option.some.injEq, Option.some.injEq, ← UInt8.toNat_inj,
        ← Char.toNat_inj]
      split at encodes <;> omega

theorem Codes.eq_ascii {other : Char} (codes : Codes symbol coded)
    (small : other.toNat < 128) :
    coded = some (ascii other) ↔ symbol = some other := by
  apply codes.eq_iff
  · refine .present ?_
    rw [Utf8.Encodes, if_pos small, ascii]
    simp only [Nat.toUInt8, UInt8.toNat_ofNat']
    omega
  · rintro _ ⟨⟩
    exact small

/-- Where the rest of a text starts. -/
def offsetOf (input rest : List Char) : Nat :=
  Utf8.size input - Utf8.size rest

theorem offsetOf_append : offsetOf (first ++ second) second =
    Utf8.size first := by
  rw [offsetOf, Utf8.size_append, Nat.add_sub_cancel]

variable {input rest left : List Char}

theorem sliceFrom_offsetOf (suffix : text <:+ input) :
    Utf8.sliceFrom input (offsetOf input text) = some text := by
  obtain ⟨first, rfl⟩ := suffix
  rw [offsetOf_append, Utf8.sliceFrom_append]

/-- The rest of a rest. -/
theorem offsetOf_append_right (suffix : first ++ second <:+ input) :
    offsetOf input second =
      offsetOf input (first ++ second) + Utf8.size first := by
  obtain ⟨before, rfl⟩ := suffix
  rw [offsetOf_append, ← List.append_assoc, offsetOf_append,
    Utf8.size_append]

theorem codes_offsetOf (suffix : text <:+ input) :
    Codes text.head? (Utf8.bytes input)[offsetOf input text]? := by
  obtain ⟨first, rfl⟩ := suffix
  rw [offsetOf_append]
  exact codes_head

theorem bytes_drop :
    (Utf8.bytes (first ++ second)).drop (Utf8.size first) =
      Utf8.bytes second := by
  rw [Utf8.bytes_append, ← Utf8.length_bytes, List.drop_left]

theorem bytes_of_isSpace (space : isSpace char = true) :
    ∃ byte, String.utf8EncodeChar char = [byte] ∧
      isAsciiWhitespace byte = true := by
  have small : char.utf8Size = 1 := by
    rw [Char.utf8Size_eq_one_iff, UInt32.le_iff_toNat_le]
    have code := isSpace_iff.mp space
    change char.toNat ≤ 127
    omega
  refine ⟨char.val.toUInt8, String.utf8EncodeChar_eq_singleton small, ?_⟩
  rw [@isAsciiWhitespace_eq char, space]
  apply Utf8.encodes_of_mem
  rw [String.utf8EncodeChar_eq_singleton small]
  exact List.mem_singleton_self _

theorem length_takeWhile_bytes :
    ((Utf8.bytes text).takeWhile isAsciiWhitespace).length =
      Utf8.size (text.takeWhile isSpace) := by
  induction text with
  | nil => rfl
  | cons char rest ih =>
    cases space : isSpace char with
    | true =>
      obtain ⟨byte, encoded, blank⟩ := bytes_of_isSpace space
      have one : char.utf8Size = 1 := by
        rw [← String.length_utf8EncodeChar, encoded]
        rfl
      rw [List.takeWhile_cons_of_pos space, Utf8.size_cons, ← ih, one,
        Utf8.bytes, List.flatMap_cons, encoded, List.singleton_append,
        List.takeWhile_cons_of_pos blank, List.length_cons, Nat.add_comm]
      rfl
    | false =>
      obtain ⟨byte, others, encoded⟩ :=
        List.exists_cons_of_ne_nil (@String.utf8EncodeChar_ne_nil char)
      have solid : isAsciiWhitespace byte ≠ true := by
        rw [@isAsciiWhitespace_eq char, space]
        · decide
        · exact Utf8.encodes_of_mem (by simp [encoded])
      rw [List.takeWhile_cons_of_neg (by simp [space]), Utf8.bytes,
        List.flatMap_cons, encoded, List.cons_append,
        List.takeWhile_cons_of_neg solid]
      rfl

theorem skipAsciiWhitespace_offsetOf (suffix : text <:+ input) :
    skipAsciiWhitespace (Utf8.bytes input) (offsetOf input text) =
      offsetOf input (skipSpace text) := by
  have split : text.takeWhile isSpace ++ skipSpace text = text :=
    List.takeWhile_append_dropWhile
  have skipped : offsetOf input (skipSpace text) =
      offsetOf input (text.takeWhile isSpace ++ skipSpace text) +
        Utf8.size (text.takeWhile isSpace) :=
    offsetOf_append_right (by rw [split]; exact suffix)
  rw [split] at skipped
  obtain ⟨first, rfl⟩ := suffix
  rw [skipped, offsetOf_append, skipAsciiWhitespace, bytes_drop,
    length_takeWhile_bytes]

theorem size_le_of_suffix (suffix : text <:+ input) :
    Utf8.size text ≤ Utf8.size input := by
  obtain ⟨first, rfl⟩ := suffix
  rw [Utf8.size_append]
  omega

theorem utf8Size_of_isQuote (quote : isQuote char = true) :
    char.utf8Size = 1 := by
  rw [Char.utf8Size_eq_one_iff, UInt32.le_iff_toNat_le]
  have code := isQuote_iff.mp quote
  change char.toNat ≤ 127
  omega

variable {quote : Char} {escaped : Bool} {offset : Nat}

theorem readQuoted_size (reads : readQuoted quote escaped text = some left) :
    Utf8.size left < Utf8.size text := by
  obtain ⟨taken, nonempty, rfl⟩ := readQuoted_suffix reads
  have positive := Utf8.size_pos nonempty
  rw [Utf8.size_append]
  omega

/-- Behind the first character the closing quote is looked for alone. -/
theorem closingQuote_eq (quoted : isQuote quote = true) (begun : 0 < offset) :
    closingQuote quote escaped offset text =
      (readQuoted quote escaped text).map fun left =>
        offset + (Utf8.size text - Utf8.size left) - 1 := by
  have one := utf8Size_of_isQuote quoted
  induction text generalizing escaped offset with
  | nil => cases escaped <;> rfl
  | cons char rest ih =>
    have positive := char.utf8Size_pos
    have next : ∀ escaped,
        closingQuote quote escaped (offset + char.utf8Size) rest =
          (readQuoted quote escaped rest).map fun left =>
            offset + (Utf8.size (char :: rest) - Utf8.size left) - 1 := by
      intro escaped
      rw [ih (by omega)]
      refine Option.map_congr ?_
      intro left reads
      have smaller := readQuoted_size reads
      rw [Utf8.size_cons]
      omega
    cases escaped with
    | true => exact next false
    | false =>
      rw [closingQuote, readQuoted]
      split
      · exact next true
      · split
        · rename_i closes
          subst closes
          rw [Option.map_some, Utf8.size_cons, one]
          congr 1
          omega
        · exact next false

/-- The closing quote of a value that is not empty, from the value's start. -/
theorem closingQuote_start (quoted : isQuote quote = true) :
    closingQuote quote false 0 text =
      if text.head? = some quote then none
      else (readQuoted quote false text).map fun left =>
        Utf8.size text - Utf8.size left - 1 := by
  cases text with
  | nil => rfl
  | cons char rest =>
    have positive := char.utf8Size_pos
    have notEscape : quote ≠ '\\' := by
      rintro rfl
      revert quoted
      decide
    have next : ∀ escaped,
        closingQuote quote escaped (0 + char.utf8Size) rest =
          (readQuoted quote escaped rest).map fun left =>
            Utf8.size (char :: rest) - Utf8.size left - 1 := by
      intro escaped
      rw [closingQuote_eq quoted (by omega)]
      refine Option.map_congr ?_
      intro left reads
      have smaller := readQuoted_size reads
      rw [Utf8.size_cons]
      omega
    rw [closingQuote, readQuoted]
    split
    · rename_i escapes
      rw [if_neg (by simp [escapes, notEscape.symm])]
      exact next true
    · split
      · rename_i closes
        rw [if_neg (Nat.lt_irrefl 0), if_pos (by simp [closes])]
      · rename_i other
        rw [if_neg (by simpa using other)]
        exact next false

theorem readValue_isSuffix (reads : readValue text = some left) :
    left <:+ text := by
  obtain ⟨taken, -, rfl⟩ := readValue_suffix reads
  exact List.suffix_append _ _

theorem consumeSecretValue_offsetOf (suffix : text <:+ input) :
    consumeSecretValue input (offsetOf input text) =
      .ok ((readValue text).map (offsetOf input)) := by
  rw [consumeSecretValue, sliceFrom_offsetOf suffix]
  cases text with
  | nil => rfl
  | cons first rest =>
    have behind : offsetOf input rest =
        offsetOf input (first :: rest) + first.utf8Size := by
      have skipped := @offsetOf_append_right [first] rest input suffix
      simpa using skipped
    have restSuffix : rest <:+ input := (List.suffix_cons first rest).trans suffix
    cases quoted : isQuote first with
    | true =>
      have one := utf8Size_of_isQuote quoted
      simp only [orPanic, quoted, if_true, ← behind,
        sliceFrom_offsetOf restSuffix, readValue, closingQuote_start quoted,
        Except.bind, bind, pure, Except.pure]
      congr 1
      split
      · rfl
      · rw [Option.map_map]
        refine Option.map_congr ?_
        intro left reads
        have smaller := readQuoted_size reads
        have whole := size_le_of_suffix restSuffix
        simp only [Function.comp, offsetOf, one] at *
        omega
    | false =>
      simp only [orPanic, quoted, readValue, Except.bind, bind, pure,
        Except.pure, Bool.false_eq_true, if_false]
      congr 1
      cases ends : endsValue first with
      | true =>
        rw [List.takeWhile_cons_of_neg (by simp [ends])]
        simp
      | false =>
        have positive := first.utf8Size_pos
        rw [List.takeWhile_cons_of_pos (by simp [ends]),
          if_pos (by rw [Utf8.size_cons]; omega)]
        have taken : rest.takeWhile (fun char => !endsValue char) ++
            rest.dropWhile (fun char => !endsValue char) = rest :=
          List.takeWhile_append_dropWhile
        have skipped := @offsetOf_append_right
          (rest.takeWhile fun char => !endsValue char)
          (rest.dropWhile fun char => !endsValue char) input
          (by rw [taken]; exact restSuffix)
        rw [taken] at skipped
        simp only [Bool.false_eq_true, if_false, Option.map_some, skipped,
          behind, Utf8.size_cons]
        congr 1
        omega

theorem consumeAuthorizationValue_offsetOf (suffix : text <:+ input) :
    consumeAuthorizationValue input (offsetOf input text) =
      .ok ((readAuthorization text).map (offsetOf input)) := by
  rw [consumeAuthorizationValue, sliceFrom_offsetOf suffix]
  cases text with
  | nil => rfl
  | cons first rest =>
    cases quoted : isQuote first with
    | true =>
      simp only [orPanic, quoted, if_true, readAuthorization,
        consumeSecretValue_offsetOf suffix, List.head?_cons, Option.any_some,
        Except.bind, bind]
    | false =>
      simp only [orPanic, quoted, readAuthorization,
        consumeSecretValue_offsetOf suffix, List.head?_cons, Option.any_some,
        Except.bind, bind, Bool.false_eq_true, if_false]
      cases reads : readValue (first :: rest) with
      | none => rfl
      | some scheme =>
        have schemeSuffix := (readValue_isSuffix reads).trans suffix
        simp only [Option.map_some, Option.bind_some,
          skipAsciiWhitespace_offsetOf schemeSuffix]
        cases scheme with
        | nil => simp [skipSpace, pure, Except.pure]
        | cons char others =>
          cases space : isSpace char with
          | true =>
            have rest : others.dropWhile isSpace <:+ others :=
              List.dropWhile_suffix _
            have smaller := size_le_of_suffix rest
            have whole := size_le_of_suffix schemeSuffix
            have positive := char.utf8Size_pos
            have skips : skipSpace (char :: others) =
                others.dropWhile isSpace :=
              List.dropWhile_cons_of_pos space
            rw [skips, if_neg, ← skips, consumeSecretValue_offsetOf]
            · simp [space]
            · rw [skips]
              exact rest.trans ((List.suffix_cons _ _).trans schemeSuffix)
            · simp only [offsetOf, Utf8.size_cons] at *
              omega
          | false =>
            have stays : skipSpace (char :: others) = char :: others :=
              List.dropWhile_cons_of_neg (by simp [space])
            simp [stays, space, pure, Except.pure]

theorem utf8Size_toLower : char.toLower.utf8Size = char.utf8Size := by
  unfold Char.toLower
  split
  · rename_i upper
    have small : char.utf8Size = 1 := by
      rw [Char.utf8Size_eq_one_iff, UInt32.le_iff_toNat_le]
      have bound := UInt32.le_iff_toNat_le.mp upper.2
      change char.val.toNat ≤ 90 at bound
      change char.val.toNat ≤ 127
      omega
    rw [small, Char.utf8Size_eq_one_iff, UInt32.le_iff_toNat_le]
    have bound := UInt32.le_iff_toNat_le.mp upper.2
    change char.val.toNat ≤ 90 at bound
    change (char.val + 32).toNat ≤ 127
    rw [UInt32.toNat_add]
    change (char.val.toNat + 32) % 2 ^ 32 ≤ 127
    omega
  · rfl

theorem size_toLower : Utf8.size (text.map Char.toLower) = Utf8.size text := by
  induction text with
  | nil => rfl
  | cons char rest ih =>
    rw [List.map_cons, Utf8.size_cons, Utf8.size_cons, ih, utf8Size_toLower]

theorem offsetOf_tail (suffix : text <:+ input) (head : text.head? = some char)
    (small : char.toNat < 128) :
    offsetOf input text.tail = offsetOf input text + 1 := by
  cases text with
  | nil => cases head
  | cons first others =>
    obtain rfl : first = char := Option.some.inj head
    have one : first.utf8Size = 1 := by
      rw [Char.utf8Size_eq_one_iff, UInt32.le_iff_toNat_le]
      change first.toNat ≤ 127
      omega
    have skipped := @offsetOf_append_right [first] others input suffix
    simpa [one] using skipped

theorem tail_isSuffix (suffix : text <:+ input) : text.tail <:+ input :=
  (List.tail_suffix text).trans suffix

theorem skipSpace_isSuffix (suffix : text <:+ input) :
    skipSpace text <:+ input :=
  (List.dropWhile_suffix _).trans suffix

variable {done key label : List Char}

theorem labeledSecretSpan_offsetOf (sized : Utf8.size key = Utf8.size label) :
    labeledSecretSpan (done ++ (key ++ rest)) (Utf8.size done) label =
      .ok ((readLabeled done.getLast? label rest).map fun left =>
        (if done.getLast?.any isQuote then Utf8.size done - 1
          else Utf8.size done,
          offsetOf (done ++ (key ++ rest)) left)) := by
  have codesBefore := @codes_last done (key ++ rest)
  generalize entire : done ++ (key ++ rest) = input at codesBefore ⊢
  have restSuffix : rest <:+ input := by
    rw [← entire, ← List.append_assoc]
    exact List.suffix_append _ _
  have keyEnd : Utf8.size done + Utf8.size label = offsetOf input rest := by
    rw [← entire, ← List.append_assoc, offsetOf_append, Utf8.size_append,
      sized]
  have codesAfter := codes_offsetOf restSuffix
  unfold labeledSecretSpan
  simp only [keyEnd]
  generalize (if Utf8.size done > 0 then
    (Utf8.bytes input)[Utf8.size done - 1]? else none) = coded at codesBefore ⊢
  generalize done.getLast? = before at codesBefore ⊢
  have codesQuote := codesBefore.filter_quote
  have smallQuote : ∀ char ∈ before.filter isQuote, char.toNat < 128 := by
    intro char member
    have quote := isQuote_iff.mp (Option.filter_eq_some_iff.mp member).2
    omega
  rw [codesBefore.any_label, codesAfter.any_label, codesQuote.isSome_eq,
    readLabeled, readKey]
  simp only [ne_eq, codesAfter.eq_iff codesQuote smallQuote]
  by_cases bounded : before.any isLabelChar = true
  · rw [if_pos bounded, if_pos (Or.inl bounded)]
    rfl
  by_cases continued : rest.head?.any isLabelChar = true
  · rw [if_neg bounded, if_pos continued, if_pos (Or.inr continued)]
    rfl
  have bare : ¬(before.any isLabelChar = true ∨
      rest.head?.any isLabelChar = true) := by
    tauto
  rw [if_neg bounded, if_neg continued, if_neg bare]
  by_cases unclosed : (before.filter isQuote).isSome = true ∧
      ¬rest.head? = before.filter isQuote
  · rw [if_pos unclosed, if_pos unclosed]
    rfl
  rw [if_neg unclosed, if_neg unclosed]
  have quoteSkipped : skipKeyQuote (before.filter isQuote) rest <:+ input := by
    unfold skipKeyQuote
    split
    · exact tail_isSuffix restSuffix
    · exact restSuffix
  have cursor : (if (before.filter isQuote).isSome = true then
      offsetOf input rest + 1 else offsetOf input rest) =
        offsetOf input (skipKeyQuote (before.filter isQuote) rest) := by
    unfold skipKeyQuote
    split
    · rename_i quoted
      obtain ⟨quote, isKeyQuote⟩ := Option.isSome_iff_exists.mp quoted
      have closed : rest.head? = some quote := by
        rw [← isKeyQuote]
        by_contra open'
        exact unclosed ⟨quoted, open'⟩
      rw [offsetOf_tail restSuffix closed (smallQuote quote isKeyQuote)]
    · rfl
  rw [cursor, skipAsciiWhitespace_offsetOf quoteSkipped]
  have separated := skipSpace_isSuffix quoteSkipped
  generalize skipSpace (skipKeyQuote (before.filter isQuote) rest) = text
    at separated ⊢
  have codesSeparator := codes_offsetOf separated
  have separates (other : Char) (small : other.toNat < 128) :=
    codesSeparator.eq_ascii small
  simp only [separates '=' (by decide), separates ':' (by decide)]
  by_cases assigned : text.head? = some '=' ∨ text.head? = some ':'
  · rw [if_neg (by tauto), if_pos assigned]
    have behind : offsetOf input text.tail = offsetOf input text + 1 := by
      cases assigned with
      | inl separator => exact offsetOf_tail separated separator (by decide)
      | inr separator => exact offsetOf_tail separated separator (by decide)
    rw [← behind, skipAsciiWhitespace_offsetOf (tail_isSuffix separated)]
    have value := skipSpace_isSuffix (tail_isSuffix separated)
    have start : (if (before.filter isQuote).isSome = true then
        Utf8.size done - 1 else Utf8.size done) =
          if before.any isQuote = true then Utf8.size done - 1
          else Utf8.size done := by
      cases before with
      | none => rfl
      | some char => cases quote : isQuote char <;> simp [quote, Option.filter]
    rw [start, consumeAuthorizationValue_offsetOf value,
      consumeSecretValue_offsetOf value, Option.bind_some, readLabelValue]
    split <;> simp [bind, Except.bind, pure, Except.pure, Function.comp_def]
  · rw [if_pos (by tauto), if_neg assigned]
    rfl

end Spotuify.Redaction
