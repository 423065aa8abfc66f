/-
# What is written as text is read back

A value is written in one piece and read in two steps, characters to tokens and
tokens to a value.  The tokens of a value (`Json.tokens`) are where the steps meet:

| step | reads |
| --- | --- |
| `Json.Written.lexes` | the text of a value, however deep it stands, as its tokens |
| `Json.Written.builds` | the tokens of a value as the value, whatever brackets are open |

A number is the run of its digits, and where that ends is for the character behind
to say; so a text is read up to one that does not go on with a word
(`JsonToken.Lexes`).  A string is read character by character, each as the code
units that it was written for (`string?_escape_append`).  The two halves make
`Json.Written.parse?_pretty`.
-/

import Mathlib.Data.List.Forall2
import Mathlib.Data.List.TakeWhile
import UsbGadget.Json.Printer
import UsbGadget.Json.Reader
import UsbGadget.Proofs.StringText

namespace UsbGadget

/-! ### Numbers -/

namespace JsonNumber

/-- The digits of a number are read as the number. -/
theorem ofDigits_toDigits (n : Nat) : ofDigits 0 (Nat.toDigits 10 n) = n := by
  have hstep : (fun n c => n * 10 + (c.toNat - '0'.toNat)) =
      fun (n : Nat) (c : Char) => 10 * n + (c.toNat - '0'.toNat) := by
    funext n c
    rw [Nat.mul_comm]
  rw [ofDigits, hstep, ← Nat.ofDigitChars_eq_foldl,
    Nat.ofDigitChars_toDigits (by decide) (Nat.le_refl 10)]

/-- Digits that are appended make a number no smaller. -/
theorem le_ofDigits (n : Nat) (cs : List Char) : n ≤ ofDigits n cs := by
  induction cs generalizing n with
  | nil => exact Nat.le_refl n
  | cons c cs ih =>
    have hlonger : n ≤ n * 10 + (c.toNat - '0'.toNat) := by omega
    exact Nat.le_trans hlonger (ih _)

/-- All digits of a number that fits are kept. -/
theorem keepDigits_of_lt {n : Nat} {cs : List Char} (h : ofDigits n cs < coefficientBound) :
    keepDigits n cs = (ofDigits n cs, []) := by
  fun_induction keepDigits n cs with
  | case1 => rfl
  | case2 n c cs longer hlt ih => exact ih h
  | case3 n c cs longer hge => exact absurd (Nat.lt_of_le_of_lt (le_ofDigits longer cs) h) hge

/-- No number but 0 is written with 0 as its first digit. -/
theorem head?_toDigits {n : Nat} (h : 0 < n) : (Nat.toDigits 10 n).head? ≠ some '0' := by
  induction n using Nat.strongRecOn with
  | ind n ih =>
    rw [Nat.toDigits_eq_if (by decide)]
    split
    · next hlt =>
      have hdigit : ∀ d < 10, 0 < d → [d.digitChar].head? ≠ some '0' := by decide
      exact hdigit n hlt h
    · next hge =>
      have hfront := ih (n / 10) (by omega) (by omega)
      have hdigits : Nat.toDigits 10 (n / 10) ≠ [] := Nat.toDigits_ne_nil
      obtain ⟨c, cs, hcs⟩ := List.exists_cons_of_ne_nil hdigits
      rw [hcs] at hfront ⊢
      exact hfront

/-- The digits of a number have no leading zero. -/
theorem isWhole_toDigits (n : Nat) : isWhole (Nat.toDigits 10 n) = true := by
  rcases Nat.eq_zero_or_pos n with rfl | h
  · rfl
  · have hhead := head?_toDigits h
    unfold isWhole
    split
    · next hnil => exact absurd hnil Nat.toDigits_ne_nil
    · rfl
    · next c cs _ hcs =>
      rw [hcs, List.head?_cons] at hhead
      exact bne_iff_ne.2 fun hc => hhead (congrArg some hc)

/-- A natural number that fits is read back. -/
theorem ofChars?_toDigits {n : Nat} (h : n < coefficientBound) :
    ofChars? (Nat.toDigits 10 n) = some { coefficient := n } := by
  have hdigits : ∀ c ∈ Nat.toDigits 10 n, c.isDigit = true :=
    fun c hc => Nat.isDigit_of_mem_toDigits (by decide) (Nat.le_refl 10) hc
  have hunsigned : ofChars? (Nat.toDigits 10 n) = unsigned? false (Nat.toDigits 10 n) := by
    unfold ofChars?
    split
    · next cs hcs =>
      rw [hcs] at hdigits
      exact absurd (hdigits '-' (List.mem_cons_self ..)) (by decide)
    · rfl
  have hsplit : splitDigits (Nat.toDigits 10 n) = (Nat.toDigits 10 n, []) := by
    rw [splitDigits, List.takeWhile_eq_self_iff.2 hdigits, List.dropWhile_eq_nil_iff.2 hdigits]
  have hkeep : keepDigits 0 (Nat.toDigits 10 n) = (n, []) := by
    rw [keepDigits_of_lt (by rwa [ofDigits_toDigits]), ofDigits_toDigits]
  rw [hunsigned, unsigned?]
  simp only [hsplit, isWhole_toDigits, hkeep]
  rfl

end JsonNumber

/-! ### Strings -/

namespace JsonToken

/-- A control character is written as its code unit. -/
theorem hexUnit?_digits : ∀ n < 0x20,
    (Hex.digits 4 n).toList = ['0', '0', (n / 16).digitChar, (n % 16).digitChar] ∧
      hexUnit? '0' '0' (n / 16).digitChar (n % 16).digitChar = some (UInt16.ofNat n) := by
  decide

/-- A backslash and a letter are read as the unit that they stand for. -/
theorem string?_letter {letter : Char} {unit : UInt16} (h : escaped? letter = some unit)
    (cs : List Char) :
    string? ('\\' :: letter :: cs) = (string? cs).map fun p => (unit :: p.1, p.2) := by
  have hletter : letter ≠ 'u' := by
    rintro rfl
    cases (show escaped? 'u' = none from rfl).symm.trans h
  rw [string?]
  · rw [h]
    cases string? cs <;> rfl
  · exact fun _ _ _ _ _ hu _ => hletter hu

/-- A backslash and four hexadecimal digits are read as their unit. -/
theorem string?_hex {a b c d : Char} {unit : UInt16} (h : hexUnit? a b c d = some unit)
    (cs : List Char) :
    string? ('\\' :: 'u' :: a :: b :: c :: d :: cs) =
      (string? cs).map fun p => (unit :: p.1, p.2) := by
  rw [string?, h]
  cases string? cs <;> rfl

/-- Any character but a quote, a backslash and a control character is read as itself. -/
theorem string?_plain {c : Char} (hquote : c ≠ '"') (hslash : c ≠ '\\') (h : 0x20 ≤ c.toNat)
    (cs : List Char) :
    string? (c :: cs) = (string? cs).map fun p => (Utf16.units c ++ p.1, p.2) := by
  have hwritten : ¬ (decide (c = '\\') || decide (c.toNat < 0x20)) = true := by
    rw [Bool.or_eq_true, decide_eq_true_iff, decide_eq_true_iff, not_or]
    exact ⟨hslash, Nat.not_lt.2 h⟩
  rw [string?]
  · rw [if_neg hquote, if_neg hwritten]
    cases string? cs <;> rfl
  · exact fun _ _ _ _ _ hc _ => hslash hc
  · exact fun _ _ hc _ => hslash hc

/-- A character is written as a backslash and a letter, as its code unit, or as it is. -/
theorem escape_cases (c : Char) :
    (∃ letter unit, (Json.escape c).toList = ['\\', letter] ∧ escaped? letter = some unit ∧
        Utf16.units c = [unit]) ∨
      (c.toNat < 0x20 ∧ (Json.escape c).toList = '\\' :: 'u' :: (Hex.digits 4 c.toNat).toList) ∨
      (c ≠ '"' ∧ c ≠ '\\' ∧ 0x20 ≤ c.toNat ∧ (Json.escape c).toList = [c]) := by
  unfold Json.escape
  by_cases hquote : c = '"'
  · subst hquote
    exact .inl ⟨'"', 0x22, rfl, rfl, rfl⟩
  by_cases hslash : c = '\\'
  · subst hslash
    exact .inl ⟨'\\', 0x5c, rfl, rfl, rfl⟩
  by_cases hnewline : c = '\n'
  · subst hnewline
    exact .inl ⟨'n', 0x0a, rfl, rfl, rfl⟩
  by_cases hreturn : c = '\r'
  · subst hreturn
    exact .inl ⟨'r', 0x0d, rfl, rfl, rfl⟩
  by_cases htab : c = '\t'
  · subst htab
    exact .inl ⟨'t', 0x09, rfl, rfl, rfl⟩
  rw [if_neg hquote, if_neg hslash, if_neg hnewline, if_neg hreturn, if_neg htab]
  by_cases hback : c.toNat = 0x08
  · obtain rfl : c = '\x08' := Char.toNat_inj.1 hback
    exact .inl ⟨'b', 0x08, rfl, rfl, rfl⟩
  by_cases hfeed : c.toNat = 0x0c
  · obtain rfl : c = '\x0c' := Char.toNat_inj.1 hfeed
    exact .inl ⟨'f', 0x0c, rfl, rfl, rfl⟩
  rw [if_neg hback, if_neg hfeed]
  by_cases hcontrol : c.toNat < 0x20
  · rw [if_pos hcontrol, String.toList_append]
    exact .inr (.inl ⟨hcontrol, rfl⟩)
  · rw [if_neg hcontrol, Char.toString, String.toList_singleton]
    exact .inr (.inr ⟨hquote, hslash, Nat.le_of_not_lt hcontrol, rfl⟩)

/-- What is written for a character is read as its code units. -/
theorem string?_escape_append (c : Char) (cs : List Char) :
    string? ((Json.escape c).toList ++ cs) =
      (string? cs).map fun p => (Utf16.units c ++ p.1, p.2) := by
  rcases escape_cases c with
    ⟨letter, unit, htext, hletter, hunits⟩ | ⟨hcontrol, htext⟩ | ⟨hquote, hslash, hprinted, htext⟩
  · rw [htext, hunits]
    exact string?_letter hletter cs
  · obtain ⟨hdigits, hunit⟩ := hexUnit?_digits c.toNat hcontrol
    have hunits : Utf16.units c = [UInt16.ofNat c.toNat] :=
      if_pos (Nat.lt_trans hcontrol (by decide))
    rw [htext, hdigits, hunits]
    exact string?_hex hunit cs
  · rw [htext]
    exact string?_plain hquote hslash hprinted cs

/-- A quoted string is read back, whatever follows. -/
theorem string?_quoted (s rest : List Char) :
    string? (s.flatMap (fun c => (Json.escape c).toList) ++ '"' :: rest) =
      some (Utf16.encode s, rest) := by
  induction s with
  | nil =>
    rw [List.flatMap_nil, List.nil_append, string?, if_pos rfl]
    · rfl
    · exact fun _ _ _ _ _ hc _ => absurd hc (by decide)
    · exact fun _ _ hc _ => absurd hc (by decide)
  | cons c s ih =>
    rw [List.flatMap_cons, List.append_assoc, string?_escape_append, ih, Option.map_some,
      Utf16.encode, Utf16.encode, List.flatMap_cons]

/-! ### Tokens -/

/-- The text does not go on with a word. -/
def Closed (cs : List Char) : Prop := ∀ c ∈ cs.head?, isWordChar c = false

/-- The text is read as the tokens, whatever closes it. -/
def Lexes (text : List Char) (ts : List JsonToken) : Prop :=
  ∀ rest, Closed rest → tokens? (text ++ rest) = (tokens? rest).map (ts ++ ·)

/-- The end of a text closes it. -/
theorem closed_nil : Closed [] := fun c h => absurd h (Option.not_mem_none c)

/-- A character that belongs to no word closes a text. -/
theorem closed_cons {c : Char} (h : isWordChar c = false) (cs : List Char) : Closed (c :: cs) :=
  fun _ hc => Option.some.inj hc ▸ h

/-- A text closes what is before it if its front does. -/
theorem Closed.append {a b : List Char} (ha : Closed a) (hb : Closed b) : Closed (a ++ b) := by
  cases a with
  | nil => exact hb
  | cons c a => exact ha

variable {a b : List Char} {ts us : List JsonToken}

/-- Texts that are read as tokens are read one after the other, if the second closes the first. -/
theorem Lexes.append (ha : Lexes a ts) (hb : Lexes b us) (hclosed : Closed b) :
    Lexes (a ++ b) (ts ++ us) := by
  intro rest hrest
  rw [List.append_assoc, ha _ (hclosed.append hrest), hb rest hrest, Option.map_map]
  simp only [Function.comp_def, List.append_assoc]

/-- A character is none of those that do not have its property. -/
theorem forall_ne_of_any_eq_false {p : Char → Bool} {others : List Char}
    (hp : others.any p = false) {c : Char} (h : p c = true) : ∀ other ∈ others, c ≠ other := by
  rintro other hother rfl
  exact List.any_eq_false.1 hp c hother h

/-- What neither a blank nor the quote is, is read in another way. -/
theorem not_isSpace_and_ne_quote {p : Char → Bool}
    (hp : [' ', '\t', '\n', '\r', '"'].any p = false) {c : Char} (h : p c = true) :
    isSpace c = false ∧ c ≠ '"' := by
  have hne := forall_ne_of_any_eq_false hp h
  simp only [List.forall_mem_cons, List.not_mem_nil, false_implies, implies_true, and_true] at hne
  obtain ⟨hblank, htab, hnewline, hreturn, hquote⟩ := hne
  refine ⟨?_, hquote⟩
  simp only [isSpace, hblank, htab, hnewline, hreturn, decide_false, Bool.or_self]

/-- A character of a word is no mark. -/
theorem mark?_eq_none_of_isWordChar {c : Char} (h : isWordChar c = true) : mark? c = none := by
  have hmarks : ['[', ']', '\x7b', '\x7d', ':', ','].any isWordChar = false := by decide
  have hne := forall_ne_of_any_eq_false hmarks h
  simp only [List.forall_mem_cons, List.not_mem_nil, false_implies, implies_true, and_true] at hne
  obtain ⟨hopenArray, hcloseArray, hopenObject, hcloseObject, hcolon, hcomma⟩ := hne
  rw [mark?, if_neg hopenArray, if_neg hcloseArray, if_neg hopenObject, if_neg hcloseObject,
    if_neg hcolon, if_neg hcomma]

/-- The empty text is read as no tokens. -/
theorem lexes_nil : Lexes [] [] := fun _ _ => Option.map_id_apply.symm

/-- Blanks are no tokens. -/
theorem Lexes.blanks_append (h : ∀ c ∈ a, isSpace c = true) (hb : Lexes b ts) :
    Lexes (a ++ b) ts := by
  induction a with
  | nil => exact hb
  | cons c a ih =>
    obtain ⟨hc, ha⟩ := List.forall_mem_cons.1 h
    intro rest hrest
    rw [List.cons_append, List.cons_append, tokens?, if_pos hc]
    exact ih ha rest hrest

/-- A mark is a token, whatever stands behind it. -/
theorem Lexes.mark_cons {c : Char} {m : JsonToken} (h : mark? c = some m) (hb : Lexes b ts) :
    Lexes (c :: b) (m :: ts) := by
  intro rest hrest
  have hother : [' ', '\t', '\n', '\r', '"'].any (fun c => (mark? c).isSome) = false := by decide
  obtain ⟨hspace, hquote⟩ := not_isSpace_and_ne_quote hother (Option.isSome_of_eq_some h)
  rw [List.cons_append, tokens?, if_neg (Bool.eq_false_iff.1 hspace), if_neg hquote, h]
  dsimp only
  rw [hb rest hrest, Option.map_map]
  rfl

/-- A quoted string is read as one token. -/
theorem lexes_quoted (s : String) : Lexes (Json.quoted s).toList [scalar (.text s)] := by
  intro rest _
  have htext : (Json.quoted s).toList ++ rest =
      '"' :: (s.toList.flatMap (fun c => (Json.escape c).toList) ++ '"' :: rest) := by
    rw [Json.quoted, String.toList_append, String.toList_append, String.toList_join,
      List.flatMap_map, List.append_assoc]
    simp
  have hunits : ofUnits (Utf16.encode s.toList) = .text s := by
    rw [ofUnits, Utf16.decode_encode, Option.map_some, String.ofList_toList]
    rfl
  rw [htext, tokens?, if_neg (by decide), if_pos rfl]
  split
  · next hread =>
    rw [string?_quoted] at hread
    cases hread
  · next units tail hread =>
    rw [string?_quoted] at hread
    cases hread
    rw [hunits]
    rfl

/-- A word is read as one token. -/
theorem lexes_word {v : Json} (hne : a ≠ []) (h : a.all isWordChar = true)
    (hv : word? a = some v) : Lexes a [scalar v] := by
  intro rest hrest
  cases a with
  | nil => exact absurd rfl hne
  | cons c a =>
    obtain ⟨hc, ha⟩ := List.forall_mem_cons.1 (List.all_eq_true.1 h)
    obtain ⟨hspace, hquote⟩ := not_isSpace_and_ne_quote (p := isWordChar) (by decide) hc
    have hend : rest.takeWhile isWordChar = [] ∧ rest.dropWhile isWordChar = rest := by
      cases rest with
      | nil => exact ⟨rfl, rfl⟩
      | cons d rest =>
        have hd : ¬ isWordChar d = true := Bool.eq_false_iff.1 (hrest d rfl)
        exact ⟨List.takeWhile_cons_of_neg hd, List.dropWhile_cons_of_neg hd⟩
    rw [List.cons_append, tokens?, if_neg (Bool.eq_false_iff.1 hspace), if_neg hquote,
      mark?_eq_none_of_isWordChar hc]
    simp only [hc, if_true, List.takeWhile_append_of_pos ha, List.dropWhile_append_of_pos ha, hend,
      List.append_nil, hv]
    rfl

/-- The digits of a number that fits are a word for it. -/
theorem word?_toDigits {n : Nat} (h : n < JsonNumber.coefficientBound) :
    word? (Nat.toDigits 10 n) = some (.natural n) := by
  have hne : ∀ word : String, word.toList.all Char.isDigit = false →
      Nat.toDigits 10 n ≠ word.toList := by
    intro word hword heq
    refine Bool.false_ne_true (hword.symm.trans (List.all_eq_true.2 fun c hc => ?_))
    exact Nat.isDigit_of_mem_toDigits (by decide) (Nat.le_refl 10) (heq ▸ hc)
  rw [word?, if_neg (hne "true" (by decide)), if_neg (hne "false" (by decide)),
    if_neg (hne "null" (by decide)), JsonNumber.ofChars?_toDigits h]
  rfl

/-- Texts with commas between them are read as their tokens with commas between them. -/
theorem lexes_intercalate {texts : List (List Char)} {tss : List (List JsonToken)}
    (h : List.Forall₂ (fun text ts => Lexes text ts ∧ Closed text) texts tss) :
    Lexes ([','].intercalate texts) ([comma].intercalate tss) ∧
      Closed ([','].intercalate texts) := by
  induction h with
  | nil => exact ⟨lexes_nil, closed_nil⟩
  | @cons text ts texts tss hfirst hrest ih =>
    cases hrest with
    | nil =>
      rw [List.intercalate_singleton, List.intercalate_singleton]
      exact hfirst
    | cons hnext hmore =>
      rw [List.intercalate_cons_cons, List.intercalate_cons_cons, List.append_assoc,
        List.append_assoc]
      have hcomma : ∀ more, Closed (',' :: more) := closed_cons (by decide)
      exact ⟨hfirst.1.append (ih.1.mark_cons rfl) (hcomma _), hfirst.2.append (hcomma _)⟩

end JsonToken

namespace Json

open JsonToken

/-- The tokens of a bracket: its parts with commas between them. -/
def bracketTokens (left right : JsonToken) (parts : List (List JsonToken)) : List JsonToken :=
  left :: ([comma].intercalate parts ++ [right])

mutual

/-- The tokens of a value. -/
def tokens : Json → List JsonToken
  | array items => bracketTokens openArray closeArray (itemTokens items)
  | object members => bracketTokens openObject closeObject (memberTokens members)
  | null => [scalar null]
  | bool b => [scalar (bool b)]
  | number n => [scalar (number n)]
  | string s => [scalar (string s)]

/-- The tokens of each item. -/
def itemTokens : List Json → List (List JsonToken)
  | [] => []
  | item :: items => tokens item :: itemTokens items

/-- The tokens of each member. -/
def memberTokens : List (Option String × Json) → List (List JsonToken)
  | [] => []
  | (key, value) :: members =>
    (scalar (string key) :: colon :: tokens value) :: memberTokens members

end

/-- Items are written one by one. -/
theorem prettyItems_eq (depth : Nat) (items : List Json) :
    prettyItems depth items = items.map (prettyAt depth) := by
  induction items with
  | nil => rfl
  | cons item items ih => rw [prettyItems, ih, List.map_cons]

/-- Members are written one by one, each behind its key. -/
theorem prettyMembers_eq (depth : Nat) (members : List (String × Json)) :
    prettyMembers depth (members.map fun m => (some m.1, m.2)) =
      members.map fun m => quoted m.1 ++ ": " ++ prettyAt depth m.2 := by
  induction members with
  | nil => rfl
  | cons m members ih => rw [List.map_cons, prettyMembers, ih, List.map_cons, Option.getD_some]

/-- The tokens of items are those of each. -/
theorem itemTokens_eq (items : List Json) : itemTokens items = items.map tokens := by
  induction items with
  | nil => rfl
  | cons item items ih => rw [itemTokens, ih, List.map_cons]

/-- The tokens of members are those of each, behind its key and a colon. -/
theorem memberTokens_eq (members : List (String × Json)) :
    memberTokens (members.map fun m => (some m.1, m.2)) =
      members.map fun m => scalar (text m.1) :: colon :: tokens m.2 := by
  induction members with
  | nil => rfl
  | cons m members ih =>
    rw [List.map_cons, memberTokens, ih, List.map_cons]
    rfl

/-- The values that are written: all strings have a text, and all numbers are natural and fit
64 bits. -/
inductive Written : Json → Prop
  | null : Written null
  | bool (b : Bool) : Written (bool b)
  | natural {n : Nat} (h : n < JsonNumber.coefficientBound) : Written (natural n)
  | text (s : String) : Written (text s)
  | array {items : List Json} (h : ∀ item ∈ items, Written item) : Written (array items)
  | record {members : List (String × Json)} (h : ∀ m ∈ members, Written m.2) :
    Written (record members)

/-! ### From text to tokens -/

/-- A line break and its indentation are spaces. -/
theorem isSpace_newLine {c : Char} {depth : Nat} (h : c ∈ (newLine depth).toList) :
    isSpace c = true := by
  rw [newLine, String.toList_append, List.mem_append] at h
  rcases h with h | h
  · obtain rfl := List.mem_singleton.1 h
    rfl
  · rw [String.toList_ofList] at h
    obtain rfl := List.eq_of_mem_replicate h
    rfl

/-- A line break closes what is before it. -/
theorem closed_newLine_append (depth : Nat) (cs : List Char) :
    Closed ((newLine depth).toList ++ cs) := by
  rw [newLine, String.toList_append, List.append_assoc]
  exact closed_cons (by decide) _

/-- Lines in a bracket are read as what they are read as, with commas between them. -/
theorem lexes_bracket {left right : String} {first last : Char} {l r : JsonToken}
    (hleft : left.toList = [first]) (hright : right.toList = [last]) (hl : mark? first = some l)
    (hr : mark? last = some r) (depth : Nat) {lines : List String} {parts : List (List JsonToken)}
    (h : List.Forall₂ (fun line ts => Lexes line.toList ts) lines parts) :
    Lexes (bracket left right depth lines).toList (bracketTokens l r parts) := by
  have hclose : Lexes [last] [r] := lexes_nil.mark_cons hr
  by_cases hempty : lines = []
  · subst hempty
    cases h
    rw [bracket, String.toList_append, hleft, hright]
    exact hclose.mark_cons hl
  · have hlines : List.Forall₂ (fun text ts => Lexes text ts ∧ Closed text)
        (lines.map fun line => (newLine (depth + 1)).toList ++ line.toList) parts :=
      List.forall₂_map_left_iff.2 (h.imp fun line ts hline =>
        ⟨hline.blanks_append fun _ => isSpace_newLine, closed_newLine_append _ _⟩)
    have htext : (bracket left right depth lines).toList =
        first :: ([','].intercalate
            (lines.map fun line => (newLine (depth + 1)).toList ++ line.toList) ++
          ((newLine depth).toList ++ [last])) := by
      rw [bracket]
      · simp only [String.toList_append, hleft, hright, String.toList_intercalate, List.map_map,
          Function.comp_def, List.append_assoc]
        rfl
      · exact hempty
    rw [htext]
    exact ((lexes_intercalate hlines).1.append (hclose.blanks_append fun _ => isSpace_newLine)
      (closed_newLine_append depth _)).mark_cons hl

/-- A natural number is written as its digits. -/
theorem numberText_natural (n : Nat) :
    (numberText { coefficient := n }).toList = Nat.toDigits 10 n := by
  simp [numberText]

/-- What is written is read as the tokens of the value. -/
theorem Written.lexes {v : Json} (h : Written v) (depth : Nat) :
    Lexes (prettyAt depth v).toList v.tokens := by
  induction h generalizing depth with
  | null => exact lexes_word (a := "null".toList) (by decide) (by decide) rfl
  | bool b =>
    cases b with
    | false => exact lexes_word (a := "false".toList) (by decide) (by decide) rfl
    | true => exact lexes_word (a := "true".toList) (by decide) (by decide) rfl
  | @natural n hn =>
    show Lexes (numberText { coefficient := n }).toList _
    rw [numberText_natural]
    refine lexes_word Nat.toDigits_ne_nil (List.all_eq_true.2 fun c hc => ?_) (word?_toDigits hn)
    have hdigit := Nat.isDigit_of_mem_toDigits (by decide) (Nat.le_refl 10) hc
    simp only [isWordChar, Char.isAlphanum, hdigit, Bool.or_true, Bool.true_or]
  | text s => exact lexes_quoted s
  | @array items _ ih =>
    rw [prettyAt, prettyItems_eq, tokens, itemTokens_eq]
    refine lexes_bracket rfl rfl rfl rfl depth ?_
    rw [List.forall₂_map_left_iff, List.forall₂_map_right_iff, List.forall₂_same]
    exact fun item hitem => ih item hitem _
  | @record members _ ih =>
    rw [Json.record, prettyAt, prettyMembers_eq, tokens, memberTokens_eq]
    refine lexes_bracket rfl rfl rfl rfl depth ?_
    rw [List.forall₂_map_left_iff, List.forall₂_map_right_iff, List.forall₂_same]
    intro m hm
    have hblank : ∀ c ∈ [' '], isSpace c = true := List.forall_mem_singleton.2 rfl
    have hvalue : Lexes (": ".toList ++ (prettyAt (depth + 1) m.2).toList) (colon :: tokens m.2) :=
      ((ih m hm _).blanks_append hblank).mark_cons rfl
    rw [String.toList_append, String.toList_append, List.append_assoc]
    exact (lexes_quoted m.1).append hvalue (closed_cons (by decide) _)

/-! ### From tokens to values -/

open JsonReader

/-- Parts with a separator between them are taken in one by one: each leads from a state in which a
part may start to the next state that is done with one, and the separator leads on. -/
theorem foldlM_intercalate {σ τ α β : Type} {f : σ → τ → Option σ} {separator : τ}
    (done : α → σ) (push : α → β → α) {part : β → List τ} {xs : List β} (hne : xs ≠ [])
    (hseparator : ∀ a, ∃ s, f (done a) separator = some s ∧
      ∀ x ∈ xs, (part x).foldlM f s = some (done (push a x))) {s : σ} {a : α}
    (hs : ∀ x ∈ xs, (part x).foldlM f s = some (done (push a x))) :
    ([separator].intercalate (xs.map part)).foldlM f s = some (done (xs.foldl push a)) := by
  induction xs generalizing s a with
  | nil => exact absurd rfl hne
  | cons x xs ih =>
    have hx := hs x (List.mem_cons_self ..)
    by_cases hlast : xs = []
    · subst hlast
      rw [List.map_singleton, List.intercalate_singleton, hx]
      rfl
    · obtain ⟨s', hs', hmore⟩ := hseparator (push a x)
      have htail : ∀ {P : β → Prop}, (∀ y ∈ x :: xs, P y) → ∀ y ∈ xs, P y :=
        fun h y hy => h y (List.mem_cons_of_mem x hy)
      have hrest := ih hlast
        (fun a => (hseparator a).imp fun _ h => ⟨h.1, htail h.2⟩) (htail hmore)
      rw [List.map_cons, List.intercalate_cons_of_ne_nil (by simpa using hlast), List.foldlM_append,
        List.foldlM_append, hx]
      show (List.foldlM f (done (push a x)) [separator]).bind _ = _
      rw [List.foldlM_cons, hs']
      exact hrest

/-- The tokens lead from a state in which a value may come to the one in which it is complete. -/
def Builds (v : Json) (ts : List JsonToken) : Prop :=
  ∀ frames next, next = .value ∨ next = .item →
    ts.foldlM step ⟨frames, next⟩ = some (complete v frames)

/-- Where a value may come, a token that closes nothing is the start of one. -/
theorem step_eq_value? {next : Next} (hnext : next = .value ∨ next = .item) (t : JsonToken)
    (harray : t ≠ closeArray) (hobject : t ≠ closeObject) (frames : List Frame) :
    step ⟨frames, next⟩ t = value? frames t := by
  have hclose : close? frames t = none := by
    unfold close?
    split
    · contradiction
    · contradiction
    · rfl
  rcases hnext with rfl | rfl
  · rfl
  · show (close? frames t).or (value? frames t) = _
    rw [hclose, Option.none_or]

/-- A scalar is built by its token. -/
theorem builds_scalar (v : Json) : Builds v [scalar v] := by
  intro frames next hnext
  rw [List.foldlM_cons, step_eq_value? hnext (scalar v) nofun nofun frames]
  rfl

/-- An array is built by the tokens of its items. -/
theorem builds_array {items : List Json} (h : ∀ item ∈ items, Builds item item.tokens) :
    Builds (array items) (array items).tokens := by
  intro frames next hnext
  have hopen : step ⟨frames, next⟩ openArray = some ⟨.array [] :: frames, .item⟩ :=
    step_eq_value? hnext openArray nofun nofun frames
  rw [tokens, itemTokens_eq, bracketTokens, List.foldlM_cons, hopen]
  show List.foldlM step ⟨.array [] :: frames, .item⟩ _ = _
  by_cases hempty : items = []
  · subst hempty
    rfl
  · have hitems :
        ([comma].intercalate (items.map tokens)).foldlM step ⟨.array [] :: frames, .item⟩ =
        some ⟨.array (items.foldl (fun acc item => item :: acc) []) :: frames, .separator⟩ :=
      foldlM_intercalate (fun acc => State.mk (.array acc :: frames) .separator)
        (fun acc item => item :: acc) hempty (fun acc => ⟨⟨.array acc :: frames, .value⟩, rfl,
          fun item hitem => h item hitem _ _ (.inl rfl)⟩)
        fun item hitem => h item hitem _ _ (.inr rfl)
    rw [List.foldlM_append, hitems, List.foldl_flip_cons_eq_append', List.append_nil]
    show (close? (.array items.reverse :: frames) closeArray).bind _ = _
    rw [close?, List.reverse_reverse]
    rfl

/-- A record is built by the tokens of its members. -/
theorem builds_record {members : List (String × Json)} (h : ∀ m ∈ members, Builds m.2 m.2.tokens) :
    Builds (record members) (record members).tokens := by
  intro frames next hnext
  have hopen : step ⟨frames, next⟩ openObject = some ⟨.object [] none :: frames, .member⟩ :=
    step_eq_value? hnext openObject nofun nofun frames
  rw [record, tokens, memberTokens_eq, bracketTokens, List.foldlM_cons, hopen]
  show List.foldlM step ⟨.object [] none :: frames, .member⟩ _ = _
  by_cases hempty : members = []
  · subst hempty
    rfl
  · have hmember : ∀ m ∈ members, ∀ acc next, next = .member ∨ next = .key →
        (scalar (text m.1) :: colon :: tokens m.2).foldlM step ⟨.object acc none :: frames, next⟩ =
          some ⟨.object ((some m.1, m.2) :: acc) none :: frames, .separator⟩ := by
      intro m hm acc next hnext
      have hkey : step ⟨.object acc none :: frames, next⟩ (scalar (text m.1)) =
          some ⟨.object acc (some m.1) :: frames, .colon⟩ := by
        rcases hnext with rfl | rfl <;> rfl
      rw [List.foldlM_cons, hkey]
      exact h m hm (.object acc (some m.1) :: frames) .value (.inl rfl)
    have hmembers : ([comma].intercalate
          (members.map fun m => scalar (text m.1) :: colon :: tokens m.2)).foldlM step
            ⟨.object [] none :: frames, .member⟩ =
        some ⟨.object (members.foldl (fun acc m => (some m.1, m.2) :: acc) []) none :: frames,
          .separator⟩ :=
      foldlM_intercalate (fun acc => State.mk (.object acc none :: frames) .separator)
        (fun acc m => (some m.1, m.2) :: acc) hempty
        (fun acc => ⟨⟨.object acc none :: frames, .key⟩, rfl,
          fun m hm => hmember m hm acc _ (.inr rfl)⟩)
        fun m hm => hmember m hm [] _ (.inl rfl)
    rw [List.foldlM_append, hmembers, List.foldl_flip_cons_eq_append, List.append_nil]
    show (close? (.object (members.map fun m => (some m.1, m.2)).reverse none :: frames)
      closeObject).bind _ = _
    rw [close?, List.reverse_reverse]
    rfl

/-- Every value that is written is built by its tokens. -/
theorem Written.builds {v : Json} (h : Written v) : Builds v v.tokens := by
  induction h with
  | null => exact builds_scalar _
  | bool b => exact builds_scalar _
  | natural => exact builds_scalar _
  | text s => exact builds_scalar _
  | array _ ih => exact builds_array ih
  | record _ ih => exact builds_record ih

/-- **What is written is read back.** -/
theorem Written.parse?_pretty {v : Json} (h : Written v) : parse? v.pretty = some v := by
  have htokens : tokens? v.pretty.toList = some v.tokens := by
    have hlexes := h.lexes 0 [] closed_nil
    rw [List.append_nil, tokens?, Option.map_some, List.append_nil] at hlexes
    exact hlexes
  have hvalue : v.tokens.foldlM step {} = some ⟨[], .finished v⟩ := h.builds [] .value (.inl rfl)
  rw [parse?, htokens]
  show (v.tokens.foldlM step {}).bind State.result? = _
  rw [hvalue]
  rfl

end Json

end UsbGadget
