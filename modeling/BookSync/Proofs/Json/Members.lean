/-
Values in front of other text, and objects made of them.

* `ReadsAs`: a text is read as a draft wherever it stands as the value of a member;
* `readsAs_bare`, `readsAs_quoted`: a number literal is read as its value if it stands
  there bare, and as its own text if it stands in quotes;
* `exists_literal_of_readsAs`: nothing but a number literal is read as a number;
* `ofChars_pair`: an object with two members is read as its members are.
-/
import BookSync.Json.Reader
import BookSync.Proofs.Json.Literal

namespace BookSync.Json

open Decimal (digit?)

/-! ### Texts of string literals -/

/-- The character stands for itself in a string literal. -/
def IsPlain (c : Char) : Prop := c ≠ '"' ∧ c ≠ '\\' ∧ ¬ c < ' '

section

variable {cs rest : List Char}

theorem cut_append (h : ∀ c ∈ cs, IsPlain c) :
    cut (cs ++ '"' :: rest) = (cs.map .char, .closed rest) := by
  induction cs with
  | nil => rfl
  | cons c cs ih =>
    obtain ⟨⟨hquote, hbackslash, hcontrol⟩, hrest⟩ := List.forall_mem_cons.mp h
    rw [List.cons_append, cut, if_neg hcontrol, ih hrest]
    · rfl
    all_goals simp [hquote, hbackslash]

theorem join_map_char (cs rest : List Char) : join (.closed rest) (cs.map .char) = .ok cs := by
  induction cs with
  | nil => rfl
  | cons c cs ih =>
    rw [List.map_cons, join, ih]
    rfl

theorem readLiteral_append (h : ∀ c ∈ cs, IsPlain c) :
    readLiteral (cs ++ '"' :: rest) = (.ok (String.ofList cs), .ok rest) := by
  rw [readLiteral, cut_append h]
  dsimp only
  rw [join_map_char]
  rfl

end

/-! ### Values -/

theorem readDraft_minus (fuel depth : ℕ) (cs : List Char) :
    readDraft (fuel + 1) depth ('-' :: cs) = readNumber true cs := by
  rw [readDraft]
  rfl

theorem readDraft_quote (fuel depth : ℕ) (cs : List Char) :
    readDraft (fuel + 1) depth ('"' :: cs) = readText cs := by
  rw [readDraft]
  rfl

theorem readDraft_digit {d : ℕ} (h : d < 10) (fuel depth : ℕ) (cs : List Char) :
    readDraft (fuel + 1) depth (Nat.digitChar d :: cs) =
      readNumber false (Nat.digitChar d :: cs) := by
  rw [readDraft]
  interval_cases d
  all_goals rfl

/-- The draft of a literal that is not quoted. -/
def Literal.draft (l : Literal) : Draft :=
  match l.parts.value? with
  | some n => .number n
  | none => .refused .numberOutOfRange .null

theorem readNumber_unsigned (l : Literal) {rest : List Char} (h : Ends rest) :
    readNumber l.negative (l.unsigned ++ rest) = (l.draft, some rest) := by
  rw [readNumber, scan_unsigned l h, Literal.draft]
  dsimp only
  cases l.parts.value?
  · rfl
  · rfl

theorem readDraft_chars (l : Literal) {rest : List Char} (h : Ends rest) (fuel depth : ℕ) :
    readDraft (fuel + 1) depth (l.chars ++ rest) = (l.draft, some rest) := by
  have hread := readNumber_unsigned l h
  rw [Literal.chars]
  cases hsign : l.negative with
  | true =>
    rw [hsign] at hread
    rw [← hread]
    exact readDraft_minus fuel depth _
  | false =>
    -- the first digit tells the reader that a number begins
    obtain ⟨d, ds, hds⟩ := List.exists_cons_of_ne_nil l.row.ne_nil
    have hd : d < 10 := l.row.lt d (hds ▸ List.mem_cons_self)
    have hfront : l.unsigned ++ rest =
        Nat.digitChar d :: (digitChars ds ++ l.fractionChars ++ l.exponentChars ++ rest) := by
      rw [Literal.unsigned, Literal.base, hds]
      rfl
    rw [hsign, hfront] at hread
    rw [← hread, if_neg Bool.false_ne_true, List.nil_append, hfront]
    exact readDraft_digit hd fuel depth _

section

variable {cs rest : List Char} {n : Number}

theorem exists_literal_of_readNumber {negative : Bool}
    (h : readNumber negative cs = (.number n, some rest)) :
    ∃ l : Literal, l.negative = negative ∧ cs = l.unsigned ++ rest ∧ l.draft = .number n := by
  rw [readNumber] at h
  split at h
  · simp at h
  · rename_i numeral tail hscan
    obtain ⟨l, hsign, hcs, rfl⟩ := exists_literal_of_scan hscan
    cases hvalue : l.parts.value? with
    | none => simp [hvalue] at h
    | some m =>
      rw [hvalue] at h
      obtain ⟨hdraft, htail⟩ := Prod.mk.inj h
      obtain rfl := Option.some_inj.mp htail
      refine ⟨l, hsign, hcs, ?_⟩
      rw [Literal.draft, hvalue]
      exact hdraft

theorem readWord_eq {d d' : Draft} {word : List Char} (h : readWord d word cs = (d', some rest)) :
    d' = d := by
  induction word generalizing cs with
  | nil => exact (Prod.mk.inj h).1.symm
  | cons w ws ih =>
    cases cs with
    | nil => simp [readWord, breakOff] at h
    | cons c cs =>
      rw [readWord] at h
      split at h
      · exact ih h
      · simp [breakOff] at h

theorem readText_ne_number : readText cs ≠ (.number n, some rest) := by
  rw [readText]
  split <;> simp

theorem nested_ne_number {depth : ℕ} {d : Draft} (hd : d ≠ .number n) :
    nested depth d ≠ .number n := by
  rw [nested]
  split
  · exact hd
  · simp

/-- **Nothing but a literal is read as a number,** blanks in front of it apart. -/
theorem exists_literal_of_readDraft {fuel depth : ℕ}
    (h : readDraft (fuel + 1) depth cs = (.number n, some rest)) :
    ∃ l : Literal, skipGap cs = l.chars ++ rest ∧ l.draft = .number n := by
  rw [readDraft] at h
  split at h
  · simp [breakOff] at h
  · rename_i c tail hfront
    -- the first character tells what begins: only a digit or a minus begins a number
    split at h
    · exact absurd (readWord_eq h) (by simp)
    · exact absurd (readWord_eq h) (by simp)
    · exact absurd (readWord_eq h) (by simp)
    · exact absurd h readText_ne_number
    · obtain ⟨l, hsign, htail, hdraft⟩ := exists_literal_of_readNumber h
      refine ⟨l, ?_, hdraft⟩
      rw [hfront, htail, Literal.chars, hsign]
      rfl
    · exact absurd (Prod.mk.inj h).1 (nested_ne_number (by simp))
    · exact absurd (Prod.mk.inj h).1 (nested_ne_number (by simp))
    · split at h
      · obtain ⟨l, hsign, htail, hdraft⟩ := exists_literal_of_readNumber h
        refine ⟨l, ?_, hdraft⟩
        rw [hfront, htail, Literal.chars, hsign]
        rfl
      · simp [breakOff] at h

end

theorem Literal.isPlain (l : Literal) : ∀ c ∈ l.chars, IsPlain c := by
  intro c hc
  rcases l.mem_chars hc with hdigit | hother
  · obtain ⟨d, hd⟩ := Option.isSome_iff_exists.mp hdigit
    have hrange := Decimal.toNat_of_isSome hdigit
    have hcontrol : ¬ c < ' ' := by
      rw [Char.lt_def, UInt32.lt_iff_toNat_lt]
      have hspace : ' '.val.toNat = 32 := rfl
      have hval : c.val.toNat = c.toNat := rfl
      omega
    exact ⟨Decimal.ne_of_digit?_eq_some hd rfl, Decimal.ne_of_digit?_eq_some hd rfl, hcontrol⟩
  · simp only [List.mem_cons, List.not_mem_nil, or_false] at hother
    rcases hother with rfl | rfl | rfl | rfl | rfl
    all_goals exact ⟨by decide, by decide, by decide⟩

/-- The text of a literal in quotes. -/
def Literal.quoted (l : Literal) : List Char := '"' :: l.chars ++ ['"']

theorem readDraft_quoted (l : Literal) (rest : List Char) (fuel depth : ℕ) :
    readDraft (fuel + 1) depth (l.quoted ++ rest) = (.text (String.ofList l.chars), some rest) := by
  have htext : l.quoted ++ rest = '"' :: (l.chars ++ '"' :: rest) := by simp [Literal.quoted]
  rw [htext, readDraft_quote, readText, readLiteral_append l.isPlain]

/-! ### Members -/

/-- Wherever the text stands as the value of a member, it is read as this draft. -/
def ReadsAs (cs : List Char) (d : Draft) : Prop :=
  ∀ fuel rest, 2 * cs.length ≤ fuel → Ends rest →
    readDraft (fuel + 1) 1 (cs ++ rest) = (d, some rest)

theorem readsAs_bare (l : Literal) : ReadsAs l.chars l.draft :=
  fun fuel _ _ hrest => readDraft_chars l hrest fuel 1

/-- What is read as a number is a literal. -/
theorem exists_literal_of_readsAs {cs : List Char} {n : Number} (h : ReadsAs cs (.number n)) :
    ∃ l : Literal, skipGap cs = l.chars ∧ l.draft = .number n := by
  have hends : Ends [] := fun c hc => absurd hc (by simp)
  have hread := h (2 * cs.length) [] le_rfl hends
  rw [List.append_nil] at hread
  obtain ⟨l, hcs, hdraft⟩ := exists_literal_of_readDraft hread
  rw [List.append_nil] at hcs
  exact ⟨l, hcs, hdraft⟩

theorem readsAs_quoted (l : Literal) : ReadsAs l.quoted (.text (String.ofList l.chars)) :=
  fun fuel rest _ _ => readDraft_quoted l rest fuel 1

section

variable {key cs rest : List Char} {d : Draft} {fuel : ℕ}

/-- A member, behind the brace or the comma in front of it. -/
theorem readMembers_cons (hkey : ∀ c ∈ key, IsPlain c) (h : ReadsAs cs d) (hrest : Ends rest)
    (hfuel : 2 * cs.length ≤ fuel) :
    readMembers (fuel + 2) 1 true ('"' :: (key ++ '"' :: ':' :: (cs ++ rest))) =
      (.member (.ok (String.ofList key)) d (readMembers (fuel + 1) 1 false rest).1,
        (readMembers (fuel + 1) 1 false rest).2) := by
  have hquote : ∀ tail, skipGap ('"' :: tail) = '"' :: tail := fun _ => rfl
  have hcolon : ∀ tail, skipGap (':' :: tail) = ':' :: tail := fun _ => rfl
  rw [readMembers]
  simp [hquote, hcolon, readLiteral_append hkey, h fuel rest hfuel hrest]

/-- Behind a comma members go on as behind the brace. -/
theorem readMembers_comma (tail : List Char) :
    readMembers (fuel + 1) 1 false (',' :: '"' :: tail) =
      readMembers (fuel + 1) 1 true ('"' :: tail) := by
  rw [readMembers, readMembers]
  rfl

theorem readMembers_close (first : Bool) (tail : List Char) :
    readMembers (fuel + 1) 1 first ('\x7d' :: tail) = (.closed, some tail) := by
  rw [readMembers]
  rfl

end

/-- The text of an object with two members. -/
def pairChars (key value key' value' : List Char) : List Char :=
  '\x7b' :: '"' :: (key ++ '"' :: ':' :: (value ++
    ',' :: '"' :: (key' ++ '"' :: ':' :: (value' ++ ['\x7d']))))

theorem ends_cons {c : Char} (rest : List Char) (hdigit : digit? c = none)
    (hother : c ∉ ['.', 'e', 'E']) : Ends (c :: rest) := by
  intro d hd
  obtain rfl := Option.some_inj.mp hd
  have hne : c ≠ '.' ∧ c ≠ 'e' ∧ c ≠ 'E' := by simpa using hother
  exact ⟨hdigit, hne.1, not_or.mpr hne.2⟩

/-- **An object is read as its members are.** -/
theorem ofChars_pair {key value key' value' : List Char} {d d' : Draft}
    (hkey : ∀ c ∈ key, IsPlain c) (hkey' : ∀ c ∈ key', IsPlain c) (h : ReadsAs value d)
    (h' : ReadsAs value' d') :
    Draft.ofChars (pairChars key value key' value') =
      (.object (.member (.ok (String.ofList key)) d
        (.member (.ok (String.ofList key')) d' .closed)), some []) := by
  have hcomma : ∀ tail, Ends (',' :: tail) := fun tail => ends_cons tail rfl (by decide)
  have hbrace : Ends ['\x7d'] := ends_cons [] rfl (by decide)
  -- there is fuel for twice the length of the text, more than the two values need
  have hlength : (pairChars key value key' value').length =
      key.length + value.length + key'.length + value'.length + 9 := by
    simp [pairChars]
    omega
  obtain ⟨fuel, hfuel⟩ : ∃ fuel, 2 * (pairChars key value key' value').length = fuel + 2 :=
    ⟨2 * (pairChars key value key' value').length - 2, by omega⟩
  rw [Draft.ofChars, hfuel, pairChars, readDraft]
  have hopen : ∀ tail, skipGap ('\x7b' :: tail) = '\x7b' :: tail := fun _ => rfl
  simp only [hopen]
  rw [readMembers_cons hkey h (hcomma _) (by omega), readMembers_comma,
    readMembers_cons hkey' h' hbrace (by omega), readMembers_close]
  rfl

end BookSync.Json
