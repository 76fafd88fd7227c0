import Mathlib.Data.String.Basic
import ToolAssistant.Http.Url

/-!
# Forms are read back

A form is read by cutting it at every `&`, each piece at its first `=`, and undoing the escapes on
either side.  What is written as a form is read as the same pairs in the same order
(`readForm?_formPairs`), whatever characters the names and values hold.

## Strategy

What is written for a character is a `+`, a plain character or escaped bytes, and none of these is a
mark that a form is cut at (`mem_formText`).  Escapes are undone byte by byte, so one character
after another gives back its UTF-8 form (`unescapeBytes_formChar`), and the bytes of a text are read
as that text.
-/

namespace ToolAssistant.Http

/-! ## Reading a form -/

/-- The bytes of a form, in which a `+` is a blank. -/
def formBytes (cs : List Char) : List UInt8 :=
  cs.flatMap fun c => String.utf8EncodeChar (if c = '+' then ' ' else c)

/-- A name or a value of a form. -/
def readFormText? (cs : List Char) : Option String :=
  String.fromUTF8? (unescapeBytes (formBytes cs)).toByteArray

/-- A name and, behind the first `=`, its value. -/
def readFormPair? (cs : List Char) : Option (String × String) := do
  let name ← readFormText? (cs.takeWhile (· != '='))
  let value ← readFormText? ((cs.dropWhile (· != '=')).drop 1)
  some (name, value)

/-- The pairs of a form; empty pieces are passed over. -/
def readForm? (cs : List Char) : Option (List (String × String)) :=
  ((cs.splitOn '&').filter (!·.isEmpty)).mapM readFormPair?

/-! ## The characters of a form -/

theorem plainInForm_upperHexDigit (n : ℕ) : plainInForm (upperHexDigit n) = true := by
  have hdigits : ∀ digit : Fin 16, plainInForm (Nat.digitChar digit).toUpper = true := by decide
  exact hdigits ⟨n % 16, Nat.mod_lt n (by decide)⟩

theorem mem_escapeChar {c x : Char} (hc : c ∈ escapeChar x) : c = '%' ∨ plainInForm c = true := by
  obtain ⟨byte, -, hc⟩ := List.mem_flatMap.mp hc
  unfold escapeByte at hc
  simp only [List.mem_cons, List.not_mem_nil, or_false] at hc
  rcases hc with rfl | rfl | rfl
  · exact Or.inl rfl
  · exact Or.inr (plainInForm_upperHexDigit _)
  · exact Or.inr (plainInForm_upperHexDigit _)

theorem mem_formText {c : Char} {text : String} (hc : c ∈ formText text) :
    c = '+' ∨ c = '%' ∨ plainInForm c = true := by
  obtain ⟨x, -, hc⟩ := List.mem_flatMap.mp hc
  unfold formChar at hc
  split_ifs at hc with hblank hplain
  · exact Or.inl (List.mem_singleton.mp hc)
  · obtain rfl := List.mem_singleton.mp hc
    exact Or.inr (Or.inr hplain)
  · exact Or.inr (mem_escapeChar hc)

theorem equals_notMem_formText (text : String) : '=' ∉ formText text := by
  intro hmem
  rcases mem_formText hmem with habsurd | habsurd | habsurd
  all_goals exact absurd habsurd (by decide)

theorem ampersand_notMem_formText (text : String) : '&' ∉ formText text := by
  intro hmem
  rcases mem_formText hmem with habsurd | habsurd | habsurd
  all_goals exact absurd habsurd (by decide)

theorem ampersand_notMem_formPair (pair : String × String) : '&' ∉ formPair pair := by
  unfold formPair
  rw [List.mem_append, List.mem_cons]
  rintro (hname | hequals | hvalue)
  · exact ampersand_notMem_formText _ hname
  · exact absurd hequals (by decide)
  · exact ampersand_notMem_formText _ hvalue

/-! ## Undoing the escapes -/

theorem formBytes_append (cs ds : List Char) :
    formBytes (cs ++ ds) = formBytes cs ++ formBytes ds :=
  List.flatMap_append

theorem unescapeBytes_cons {byte : UInt8} (hbyte : byte ≠ 0x25) (rest : List UInt8) :
    unescapeBytes (byte :: rest) = byte :: unescapeBytes rest := by
  match rest with
  | [] => rfl
  | [_] => rfl
  | high :: low :: rest =>
      rw [unescapeBytes]
      have hplain : escapedByte? byte high low = none := by
        unfold escapedByte?
        rw [if_neg hbyte]
      rw [hplain]

/-- A hexadecimal digit is one byte and is read as its value. -/
theorem upperHexDigit_spec {n : ℕ} (hn : n < 16) :
    ∃ digit, String.utf8EncodeChar (upperHexDigit n) = [digit] ∧
      hexValue? digit = some (UInt8.ofNat n) := by
  have hdigits : ∀ n : Fin 16,
      String.utf8EncodeChar (upperHexDigit n) = [(upperHexDigit n).val.toUInt8] ∧
        hexValue? (upperHexDigit n).val.toUInt8 = some (UInt8.ofNat n) := by
    decide
  exact ⟨_, hdigits ⟨n, hn⟩⟩

theorem upperHexDigit_mod (n : ℕ) : upperHexDigit (n % 16) = upperHexDigit n := by
  unfold upperHexDigit
  rw [Nat.mod_mod]

theorem formBytes_escapeByte (byte : UInt8) :
    ∃ high low, formBytes (escapeByte byte) = [0x25, high, low] ∧
      escapedByte? 0x25 high low = some byte := by
  have hsize : byte.toNat < 256 := byte.toNat_lt
  obtain ⟨high, hhigh, hhighValue⟩ := upperHexDigit_spec (n := byte.toNat / 16) (by omega)
  obtain ⟨low, hlow, hlowValue⟩ :=
    upperHexDigit_spec (Nat.mod_lt byte.toNat (show 0 < 16 by decide))
  rw [upperHexDigit_mod] at hlow
  refine ⟨high, low, ?_, ?_⟩
  · have hplus (n : ℕ) : upperHexDigit n ≠ '+' := by
      intro hplus
      exact absurd (hplus ▸ plainInForm_upperHexDigit n) (by decide)
    unfold formBytes escapeByte
    rw [List.flatMap_cons, List.flatMap_cons, List.flatMap_singleton, if_neg (hplus _),
      if_neg (hplus _), hhigh, hlow]
    rfl
  · have hjoined : UInt8.ofNat (byte.toNat / 16) * 16 + UInt8.ofNat (byte.toNat % 16) = byte := by
      rw [← UInt8.toNat_inj]
      simp
      omega
    unfold escapedByte?
    rw [if_pos rfl, hhighValue, hlowValue]
    show some _ = some byte
    rw [hjoined]

theorem unescapeBytes_escapeBytes (bytes rest : List UInt8) :
    unescapeBytes (formBytes (bytes.flatMap escapeByte) ++ rest) = bytes ++ unescapeBytes rest := by
  induction bytes with
  | nil => rfl
  | cons byte bytes ih =>
      obtain ⟨high, low, hbytes, hread⟩ := formBytes_escapeByte byte
      rw [List.flatMap_cons, formBytes_append, hbytes, List.append_assoc]
      show unescapeBytes (0x25 :: high :: low :: (formBytes (bytes.flatMap escapeByte) ++ rest)) = _
      rw [unescapeBytes, hread, ih]
      rfl

/-- A plain character is one byte, which is no percent sign. -/
theorem utf8EncodeChar_plain {c : Char} (hc : plainInForm c = true) :
    ∃ byte, String.utf8EncodeChar c = [byte] ∧ byte ≠ 0x25 ∧ c ≠ '+' := by
  have hcode : c.toNat < 128 ∧ c.toNat ≠ 0x25 ∧ c.toNat ≠ 0x2B := by
    unfold plainInForm at hc
    simp only [Bool.or_eq_true, beq_iff_eq] at hc
    rcases hc with (((halphanumeric | rfl) | rfl) | rfl) | rfl
    · unfold Char.isAlphanum Char.isAlpha Char.isUpper Char.isLower Char.isDigit at halphanumeric
      simp [UInt32.le_iff_toNat_le] at halphanumeric
      omega
    all_goals decide
  obtain ⟨hascii, hpercent, hplus⟩ := hcode
  refine ⟨UInt8.ofNat c.toNat, ?_, ?_, ?_⟩
  · unfold String.utf8EncodeChar
    exact if_pos (Nat.le_of_lt_succ hascii)
  · intro hbyte
    have hcode : c.toNat % 256 = 0x25 := by
      simpa using congrArg UInt8.toNat hbyte
    omega
  · rintro rfl
    exact hplus rfl

theorem unescapeBytes_formChar (c : Char) (rest : List UInt8) :
    unescapeBytes (formBytes (formChar c) ++ rest) =
      String.utf8EncodeChar c ++ unescapeBytes rest := by
  unfold formChar
  split_ifs with hblank hplain
  · subst hblank
    exact unescapeBytes_cons (by decide) rest
  · obtain ⟨byte, hbyte, hpercent, hplus⟩ := utf8EncodeChar_plain hplain
    unfold formBytes
    rw [List.flatMap_singleton, if_neg hplus, hbyte]
    exact unescapeBytes_cons hpercent rest
  · exact unescapeBytes_escapeBytes _ rest

theorem unescapeBytes_formText (cs : List Char) :
    unescapeBytes (formBytes (cs.flatMap formChar)) = cs.flatMap String.utf8EncodeChar := by
  induction cs with
  | nil => rfl
  | cons c cs ih =>
      rw [List.flatMap_cons, formBytes_append, unescapeBytes_formChar, ih, List.flatMap_cons]

theorem readFormText?_formText (text : String) : readFormText? (formText text) = some text := by
  have hbytes : (unescapeBytes (formBytes (formText text))).toByteArray = text.toByteArray := by
    unfold formText
    rw [unescapeBytes_formText]
    exact String.utf8Encode_toList
  unfold readFormText?
  rw [hbytes]
  unfold String.fromUTF8?
  rw [dif_pos text.isValidUTF8]
  rfl

theorem readFormPair?_formPair (pair : String × String) :
    readFormPair? (formPair pair) = some pair := by
  have hname : ∀ c ∈ formText pair.1, (c != '=') = true := by
    intro c hc
    rw [bne_iff_ne]
    rintro rfl
    exact equals_notMem_formText _ hc
  unfold readFormPair? formPair
  rw [List.takeWhile_append_of_pos hname, List.dropWhile_append_of_pos hname,
    List.takeWhile_cons_of_neg (by decide), List.dropWhile_cons_of_neg (by decide),
    List.append_nil, List.drop_one, List.tail_cons, readFormText?_formText, readFormText?_formText]
  rfl

/-- **A form is read back as its pairs.** -/
theorem readForm?_formPairs {pairs : List (String × String)} (hpairs : pairs ≠ []) :
    readForm? (formPairs pairs) = some pairs := by
  have hpieces : (formPairs pairs).splitOn '&' = pairs.map formPair := by
    apply List.splitOn_intercalate
    · intro piece hpiece
      obtain ⟨pair, -, rfl⟩ := List.mem_map.mp hpiece
      exact ampersand_notMem_formPair pair
    · simpa using hpairs
  have hkept : (pairs.map formPair).filter (!·.isEmpty) = pairs.map formPair := by
    rw [List.filter_eq_self]
    intro piece hpiece
    obtain ⟨pair, -, rfl⟩ := List.mem_map.mp hpiece
    simp [formPair]
  unfold readForm?
  have hread : readFormPair? ∘ formPair = fun pair => pure pair :=
    funext readFormPair?_formPair
  rw [hpieces, hkept, List.mapM_map, hread, List.mapM_pure, List.map_id']
  rfl

end ToolAssistant.Http
