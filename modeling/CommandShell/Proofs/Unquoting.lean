import CommandShell.Loop
import CommandShell.Proofs.Pieces
import Mathlib

/-!
# Reading quoted byte strings back

Between its quotation marks a quoted byte string is a row of *marks*.  A mark shows a character or a
single byte, and where one mark ends can be told from its own characters: one that begins with a
backslash goes on with a letter that says how much belongs to it, and any other is one character
long.  So the first mark of a row can be read off (`Text.readMark`), and no mark begins with the
quotation mark that ends the row.

The marks of a byte string show its bytes, since its pieces consist of them.  Two rows of marks that
are followed by a quotation mark and are the same text are therefore the same marks
(`Text.marks_eq_of_flatMap_text`) and show the same bytes, and two lists in brackets that are the
same text have the same items (`Text.quotedList_injective`).
-/

namespace CommandShell

namespace Text

/-! ### Digits -/

/-- The value of a digit in base sixteen, in lower or in upper case. -/
def digitValue (c : Char) : Nat :=
  if c ≤ '9' then c.toNat - 48 else if c ≤ 'F' then c.toNat - 55 else c.toNat - 87

/-- The number that digits in base sixteen stand for. -/
def readDigits (digits : List Char) : Nat :=
  digits.foldl (fun n c => n * 16 + digitValue c) 0

lemma digitValue_digitChar : ∀ n < 16, digitValue n.digitChar = n := by
  decide

lemma digitValue_upperHexDigit : ∀ n < 16, digitValue (upperHexDigit n) = n := by
  decide

/-- The digits of a number in base sixteen stand for it. -/
lemma readDigits_hexDigits (n : Nat) : readDigits (hexDigits n) = n := by
  induction n using Nat.strongRecOn with
  | _ n ih =>
    rw [hexDigits]
    by_cases hn : n < 16
    · rw [Nat.toDigits_of_lt_base hn, readDigits, List.foldl_cons, List.foldl_nil,
        digitValue_digitChar n hn]
      omega
    · have hlast : n % 16 < 16 := Nat.mod_lt n (by decide)
      have hfirst : readDigits (Nat.toDigits 16 (n / 16)) = n / 16 := ih (n / 16) (by omega)
      rw [readDigits] at hfirst
      rw [Nat.toDigits_of_base_le (by decide) (by omega), readDigits, List.foldl_append, hfirst,
        List.foldl_cons, List.foldl_nil, digitValue_digitChar _ hlast]
      omega

/-- No digit is a brace. -/
lemma brace_notMem_hexDigits (n : Nat) : '\x7d' ∉ hexDigits n := by
  have hdigit : ∀ d < 16, '\x7d' ≠ Nat.digitChar d := by decide
  induction n using Nat.strongRecOn with
  | _ n ih =>
    rw [hexDigits]
    by_cases hn : n < 16
    · rw [Nat.toDigits_of_lt_base hn, List.mem_singleton]
      exact hdigit n hn
    · rw [Nat.toDigits_of_base_le (by decide) (by omega), List.mem_append, List.mem_singleton,
        not_or]
      exact ⟨ih (n / 16) (by omega), hdigit _ (Nat.mod_lt n (by decide))⟩

/-! ### Marks -/

/-- What one mark of a quoted byte string shows. -/
inductive Mark where
  /-- A character. -/
  | scalar (c : Char)
  /-- A byte that is no part of a character. -/
  | byte (b : UInt8)
deriving DecidableEq, Repr

namespace Mark

/-- The text of a mark. -/
def text : Mark → List Char
  | scalar c => quotedChar c
  | byte b => quotedByte b

/-- The bytes that a mark shows. -/
def bytes : Mark → Bytes
  | scalar c => String.utf8EncodeChar c
  | byte b => [b]

end Mark

/-- The marks of a piece. -/
def Piece.marks : Piece → List Mark
  | scalar c => [.scalar c]
  | malformed bytes => bytes.map .byte

/-- The marks of a byte string. -/
def marks (bytes : Bytes) : List Mark :=
  (pieces bytes).flatMap Piece.marks

/-- The marks of a byte string show its bytes. -/
lemma flatMap_bytes_marks (bytes : Bytes) : (marks bytes).flatMap Mark.bytes = bytes := by
  have hpiece (p : Piece) : p.marks.flatMap Mark.bytes = p.bytes := by
    cases p with
    | scalar c => simp [Piece.marks, Mark.bytes, Piece.bytes]
    | malformed bytes => simp [Piece.marks, Mark.bytes, Piece.bytes, List.flatMap_map]
  rw [marks, List.flatMap_assoc]
  simp only [hpiece]
  exact flatMap_bytes_pieces bytes

/-- A byte string is quoted mark by mark. -/
lemma quoted_eq (bytes : Bytes) :
    quoted bytes = '"' :: (marks bytes).flatMap Mark.text ++ ['"'] := by
  have hpiece (p : Piece) : quotedPiece p = p.marks.flatMap Mark.text := by
    cases p with
    | scalar c => simp [Piece.marks, Mark.text, quotedPiece]
    | malformed bytes => simp [Piece.marks, Mark.text, quotedPiece, List.flatMap_map]
  rw [quoted, marks, List.flatMap_assoc, funext hpiece]

/-! ### Reading a mark -/

/-- The character that a letter stands for after a backslash. -/
def named (c : Char) : Char :=
  if c = '0' then '\x00'
  else if c = 't' then '\t'
  else if c = 'r' then '\r'
  else if c = 'n' then '\n'
  else c

/-- Reads what follows a backslash, and says what is left after it. -/
def readEscape : List Char → Option (Mark × List Char)
  | 'x' :: high :: low :: rest =>
    some (.byte (UInt8.ofNat (digitValue high * 16 + digitValue low)), rest)
  | 'u' :: _ :: rest =>
    some (.scalar (.ofNat (readDigits (rest.takeWhile (· ≠ '\x7d')))),
      (rest.dropWhile (· ≠ '\x7d')).tail)
  | c :: rest => some (.scalar (named c), rest)
  | [] => none

/-- Reads the first mark, and says what is left after it. -/
def readMark : List Char → Option (Mark × List Char)
  | '"' :: _ => none
  | '\\' :: rest => readEscape rest
  | c :: rest => some (.scalar c, rest)
  | [] => none

/-- A character other than a quotation mark and a backslash is a mark of its own. -/
lemma readMark_verbatim {c : Char} (hquote : c ≠ '"') (hback : c ≠ '\\') (rest : List Char) :
    readMark (c :: rest) = some (.scalar c, rest) := by
  rw [readMark]
  · exact hquote
  · exact hback

/-- The code point of a character is read back as that character. -/
lemma readMark_codePointEscape (c : Char) (rest : List Char) :
    readMark (codePointEscape c ++ rest) = some (.scalar c, rest) := by
  have hdigit : ∀ d ∈ hexDigits c.toNat, decide (d ≠ '\x7d') = true := by
    intro d hd
    rw [decide_eq_true_iff]
    rintro rfl
    exact brace_notMem_hexDigits _ hd
  have htake :
      (hexDigits c.toNat ++ '\x7d' :: rest).takeWhile (· ≠ '\x7d') = hexDigits c.toNat := by
    rw [List.takeWhile_append_of_pos hdigit, List.takeWhile_cons_of_neg (by simp), List.append_nil]
  have hdrop : (hexDigits c.toNat ++ '\x7d' :: rest).dropWhile (· ≠ '\x7d') = '\x7d' :: rest := by
    rw [List.dropWhile_append_of_pos hdigit, List.dropWhile_cons_of_neg (by simp)]
  have htext : codePointEscape c ++ rest =
      '\\' :: 'u' :: '\x7b' :: (hexDigits c.toNat ++ '\x7d' :: rest) := by
    simp [codePointEscape]
  rw [htext, readMark, readEscape, htake, hdrop, readDigits_hexDigits, Char.ofNat_toNat,
    List.tail_cons]

/-- Reading the text of a mark gives the mark. -/
lemma readMark_text (m : Mark) (rest : List Char) : readMark (m.text ++ rest) = some (m, rest) := by
  cases m with
  | byte b =>
    have hhigh : b.toNat / 16 < 16 := by have := b.toNat_lt; omega
    have hlow : b.toNat % 16 < 16 := Nat.mod_lt _ (by decide)
    have hvalue : b.toNat / 16 * 16 + b.toNat % 16 = b.toNat := by omega
    simp only [Mark.text, quotedByte, List.cons_append, List.nil_append, readMark, readEscape]
    rw [digitValue_upperHexDigit _ hhigh, digitValue_upperHexDigit _ hlow, hvalue,
      UInt8.ofNat_toNat]
  | scalar c =>
    rw [Mark.text, quotedChar]
    split
    · next h => subst h; rfl
    split
    · next h => subst h; rfl
    split
    · next h => subst h; rfl
    split
    · next h => subst h; rfl
    split
    · next h => rcases h with rfl | rfl | rfl <;> rfl
    next hplain =>
      obtain ⟨hback, hquote, -⟩ : c ≠ '\\' ∧ c ≠ '"' ∧ c ≠ '\x27' := by simpa [not_or] using hplain
      split
      · exact readMark_verbatim hquote hback rest
      split
      · exact readMark_codePointEscape c rest
      · exact readMark_verbatim hquote hback rest

/-! ### Reading quoted byte strings -/

/-- Rows of marks up to a quotation mark that are the same text are the same, and so is what
follows. -/
lemma marks_eq_of_flatMap_text {a b : List Mark} {r s : List Char}
    (h : a.flatMap Mark.text ++ '"' :: r = b.flatMap Mark.text ++ '"' :: s) : a = b ∧ r = s := by
  have hends (m : Mark) (ms : List Mark) (r s : List Char) :
      '"' :: r ≠ (m :: ms).flatMap Mark.text ++ '"' :: s := by
    -- There is no mark to be read where the row ends.
    intro h
    have hread := congrArg readMark h
    rw [List.flatMap_cons, List.append_assoc, readMark_text] at hread
    cases hread
  induction a generalizing b with
  | nil =>
    cases b with
    | nil => exact ⟨rfl, List.tail_eq_of_cons_eq h⟩
    | cons m ms => exact absurd h (hends m ms r s)
  | cons m ms ih =>
    cases b with
    | nil => exact absurd h.symm (hends m ms s r)
    | cons n ns =>
      have hread := congrArg readMark h
      simp only [List.flatMap_cons, List.append_assoc, readMark_text, Option.some.injEq,
        Prod.mk.injEq] at hread
      obtain ⟨rfl, hrest⟩ := hread
      obtain ⟨rfl, rfl⟩ := ih hrest
      exact ⟨rfl, rfl⟩

/-- Quoted byte strings that begin the same text are the same, and so is what follows. -/
lemma eq_of_quoted_append {a b : Bytes} {r s : List Char} (h : quoted a ++ r = quoted b ++ s) :
    a = b ∧ r = s := by
  rw [quoted_eq, quoted_eq] at h
  simp only [List.cons_append, List.append_assoc, List.cons.injEq, true_and] at h
  obtain ⟨hmarks, hrest⟩ := marks_eq_of_flatMap_text h
  refine ⟨?_, hrest⟩
  rw [← flatMap_bytes_marks a, ← flatMap_bytes_marks b, hmarks]

/-- What follows an item of a quoted list, given the items after it. -/
def afterItem : List Bytes → List Char
  | [] => [']']
  | item :: rest => ',' :: ' ' :: (quoted item ++ afterItem rest)

/-- A quoted list begins with its first item. -/
lemma quotedList_cons (item : Bytes) (rest : List Bytes) :
    quotedList (item :: rest) = '[' :: (quoted item ++ afterItem rest) := by
  have hitems : [',', ' '].intercalate ((item :: rest).map quoted) ++ [']'] =
      quoted item ++ afterItem rest := by
    induction rest generalizing item with
    | nil => rw [List.map_singleton, List.intercalate_singleton, afterItem]
    | cons next rest ih =>
      rw [List.map_cons, List.map_cons, List.intercalate_cons_cons, ← List.map_cons,
        List.append_assoc, ih next, afterItem]
      simp
  rw [quotedList, List.cons_append, hitems]

/-- Items after an item that are shown in the same way are the same. -/
lemma afterItem_injective : Function.Injective afterItem := by
  intro items others h
  induction items generalizing others with
  | nil =>
    cases others with
    | nil => rfl
    | cons other others => simp [afterItem] at h
  | cons item items ih =>
    cases others with
    | nil => simp [afterItem] at h
    | cons other others =>
      simp only [afterItem, List.cons.injEq, true_and] at h
      obtain ⟨rfl, hrest⟩ := eq_of_quoted_append h
      rw [ih hrest]

/-- Lists with the same quoted form are the same. -/
theorem quotedList_injective : Function.Injective quotedList := by
  have hnil (item : Bytes) (rest : List Bytes) : quotedList [] ≠ quotedList (item :: rest) := by
    rw [quotedList_cons]
    simp [quotedList, quoted]
  intro items others h
  cases items with
  | nil =>
    cases others with
    | nil => rfl
    | cons other others => exact absurd h (hnil other others)
  | cons item items =>
    cases others with
    | nil => exact absurd h.symm (hnil item items)
    | cons other others =>
      rw [quotedList_cons, quotedList_cons] at h
      obtain ⟨rfl, hrest⟩ := eq_of_quoted_append (List.tail_eq_of_cons_eq h)
      rw [afterItem_injective hrest]

end Text

namespace Record

/-- The record of the arguments of a line tells them apart from all others, and so does the record
of a launch: whatever the bytes of the arguments, the texts of two such records are the same only
for the same arguments. -/
theorem text_eq_iff_arguments_eq (a b : ArgVector) :
    ((arguments a).text = (arguments b).text ↔ a = b) ∧
      ((launching a).text = (launching b).text ↔ a = b) := by
  have hlists (label : String) (h : label ++ String.ofList (Text.quotedList a) =
      label ++ String.ofList (Text.quotedList b)) : a = b := by
    have hcharacters := congrArg String.toList h
    rw [String.toList_append, String.toList_append, String.toList_ofList, String.toList_ofList,
      List.append_cancel_left_eq] at hcharacters
    exact Text.quotedList_injective hcharacters
  refine ⟨⟨hlists "arguments: ", ?_⟩, ⟨hlists "launching ", ?_⟩⟩
  · rintro rfl
    rfl
  · rintro rfl
    rfl

/-- A byte is told from the text that shows it, and two arguments from one that looks like both. -/
example : Text.quotedList [[0xFF]] ≠ Text.quotedList [utf8 "\\xFF"] ∧
    Text.quotedList [utf8 "a", utf8 "b"] ≠ Text.quotedList [utf8 "a\", \"b"] := by
  decide

end Record

end CommandShell
