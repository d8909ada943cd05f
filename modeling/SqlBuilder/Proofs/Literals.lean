import SqlBuilder.Proofs.SchemaNumbering

/-!
# Literals of MySQL

MySQL reads a literal up to the first quote that is neither written twice nor behind a backslash,
and takes a backslash together with the character behind it (`Escapes.readLiteral`). A literal is
written with its quotes doubled and its backslashes as they are. So it is read back, and ends where
it was meant to, exactly if every backslash in it stands before a character that it has no meaning
for (`Escapes.readLiteral_literal_iff`).

A backslash before a quote, or at the end, takes a quote that was written to be doubled or to close
the literal, which then ends before or behind its end (`Escapes.readText_inside_ne`). Any other
backslash that has a meaning makes the text shorter (`Escapes.length_of_readText_escape`).
-/

namespace SqlBuilder.Schema

/-! ## Reading a literal -/

/-- What a backslash and the character behind it stand for in a literal: for one character, as they
do before a backslash and a quote, or for themselves. -/
structure Escapes where
  read : Char → List Char
  backslash : read '\\' = ['\\']
  quote : read '\x27' = ['\x27']
  single_or_self : ∀ c, (∃ d, read c = [d]) ∨ read c = ['\\', c]

namespace Escapes

/-- The escapes that MySQL documents. The wildcards of patterns keep their backslash. -/
def mysql : Escapes where
  read
    | '0' => ['\x00']
    | 'b' => ['\x08']
    | 'n' => ['\n']
    | 'r' => ['\r']
    | 't' => ['\t']
    | 'Z' => ['\x1a']
    | '%' => ['\\', '%']
    | '_' => ['\\', '_']
    | c => [c]
  backslash := rfl
  quote := rfl
  single_or_self c := by split <;> simp

variable (e : Escapes)

/-- The text up to its closing quote, and what follows that. -/
def readText : List Char → Option (List Char × List Char)
  | [] => none
  | [c] => if c = '\x27' then some ([], []) else none
  | c :: d :: cs =>
    if c = '\\' then (readText cs).map fun (text, rest) => (e.read d ++ text, rest)
    else if c ≠ '\x27' then (readText (d :: cs)).map fun (text, rest) => (c :: text, rest)
    else if d = '\x27' then (readText cs).map fun (text, rest) => (c :: text, rest)
    else some ([], d :: cs)

/-- The text of the literal at the front of a statement, and what follows it. -/
def readLiteral : List Char → Option (List Char × List Char)
  | [] => none
  | c :: cs => if c = '\x27' then e.readText cs else none

/-- A backslash in front of the text has no meaning. -/
def Idle : List Char → Prop
  | [] => False
  | d :: _ => e.read d = ['\\', d]

instance decidableIdle : (cs : List Char) → Decidable (e.Idle cs)
  | [] => isFalse id
  | d :: _ => inferInstanceAs (Decidable (e.read d = ['\\', d]))

/-- Every backslash stands before a character that it has no meaning for. -/
def Keeps : List Char → Prop
  | [] => True
  | c :: cs => (c = '\\' → e.Idle cs) ∧ Keeps cs

instance decidableKeeps : (cs : List Char) → Decidable (e.Keeps cs)
  | [] => isTrue trivial
  | c :: cs =>
    have := decidableKeeps cs
    inferInstanceAs (Decidable ((c = '\\' → e.Idle cs) ∧ e.Keeps cs))

variable {e} {c d : Char} {cs text rest : List Char}

theorem readText_backslash (d : Char) (cs : List Char) : e.readText ('\\' :: d :: cs) =
    (e.readText cs).map fun (text, rest) => (e.read d ++ text, rest) := by
  rw [readText, if_pos rfl]

theorem readText_cons (hb : c ≠ '\\') (hq : c ≠ '\x27') (cs : List Char) :
    e.readText (c :: cs) = (e.readText cs).map fun (text, rest) => (c :: text, rest) := by
  cases cs with
  | nil => simp only [readText, if_neg hq, Option.map_none]
  | cons d cs => rw [readText, if_neg hb, if_pos hq]

theorem readText_quote_quote (cs : List Char) : e.readText ('\x27' :: '\x27' :: cs) =
    (e.readText cs).map fun (text, rest) => ('\x27' :: text, rest) := by
  rw [readText, if_neg (by decide), if_neg (by decide), if_pos rfl]

theorem readText_quote (h : rest.head? ≠ some '\x27') :
    e.readText ('\x27' :: rest) = some ([], rest) := by
  cases rest with
  | nil => rfl
  | cons d rest =>
    have hd : d ≠ '\x27' := fun he => h (congrArg some he)
    rw [readText, if_neg (by decide), if_neg (by decide), if_neg hd]

/-- What follows a literal is shorter than the literal with it. -/
theorem length_lt_of_readText (h : e.readText cs = some (text, rest)) :
    rest.length < cs.length := by
  fun_induction readText e cs generalizing text
  case case1 | case3 => cases h
  case case2 =>
    cases h
    exact Nat.zero_lt_one
  case case4 ih | case5 ih | case6 ih =>
    obtain ⟨⟨text', rest'⟩, hread, he⟩ := Option.map_eq_some_iff.1 h
    cases he
    have hlength := ih hread
    simp only [List.length_cons] at hlength ⊢
    omega
  case case7 =>
    cases h
    exact Nat.lt_succ_self _

/-! ## What is written is read back -/

theorem escape_quote (cs : List Char) :
    literalQuotes.escape ('\x27' :: cs) = '\x27' :: '\x27' :: literalQuotes.escape cs :=
  Quotes.escape_cons_closing (q := literalQuotes) cs

theorem escape_cons (h : c ≠ '\x27') (cs : List Char) :
    literalQuotes.escape (c :: cs) = c :: literalQuotes.escape cs :=
  Quotes.escape_cons_of_ne (q := literalQuotes) h cs

/-- All characters but a backslash are read as they were written. -/
theorem readText_escape_cons (hb : c ≠ '\\') (cs rest : List Char) :
    e.readText (literalQuotes.escape (c :: cs) ++ rest) =
      (e.readText (literalQuotes.escape cs ++ rest)).map fun (text, rest) => (c :: text, rest) := by
  by_cases hq : c = '\x27'
  · rw [hq, escape_quote, List.cons_append, List.cons_append, readText_quote_quote]
  · rw [escape_cons hq, List.cons_append, readText_cons hb hq]

/-- A backslash is read together with the character behind it. -/
theorem readText_escape_backslash (hq : d ≠ '\x27') (cs rest : List Char) :
    e.readText (literalQuotes.escape ('\\' :: d :: cs) ++ rest) =
      (e.readText (literalQuotes.escape cs ++ rest)).map
        fun (text, rest) => (e.read d ++ text, rest) := by
  rw [escape_cons (by decide), escape_cons hq, List.cons_append, List.cons_append,
    readText_backslash]

theorem ne_of_read_eq_self (h : e.read d = ['\\', d]) : d ≠ '\\' ∧ d ≠ '\x27' := by
  constructor
  · rintro rfl
    rw [e.backslash] at h
    cases h
  · rintro rfl
    rw [e.quote] at h
    cases h

/-- A text that keeps its backslashes is read back. -/
theorem readText_escape (h : rest.head? ≠ some '\x27') :
    ∀ {cs : List Char}, e.Keeps cs →
      e.readText (literalQuotes.escape cs ++ '\x27' :: rest) = some (cs, rest)
  | [], _ => readText_quote h
  | c :: cs, ⟨hbackslash, hcs⟩ => by
    by_cases hb : c = '\\'
    · cases cs with
      | nil => exact (hbackslash hb).elim
      | cons d cs =>
        have hread : e.read d = ['\\', d] := hbackslash hb
        rw [hb, readText_escape_backslash (ne_of_read_eq_self hread).2, readText_escape h hcs.2,
          hread]
        rfl
    · rw [readText_escape_cons hb, readText_escape h hcs]
      rfl

/-- A literal that is read from one of its inner quotes on ends before or behind its end. -/
theorem readText_inside_ne (text rest : List Char) : ∀ cs : List Char,
    e.readText ('\x27' :: (literalQuotes.escape cs ++ '\x27' :: rest)) ≠ some (text, rest)
  | [], h => by
    rw [show literalQuotes.escape [] = [] from rfl, List.nil_append, readText_quote_quote] at h
    obtain ⟨⟨text', rest'⟩, hread, he⟩ := Option.map_eq_some_iff.1 h
    cases he
    exact lt_irrefl _ (length_lt_of_readText hread)
  | c :: cs, h => by
    by_cases hq : c = '\x27'
    · rw [hq, escape_quote, List.cons_append, List.cons_append, readText_quote_quote] at h
      obtain ⟨⟨text', rest'⟩, hread, he⟩ := Option.map_eq_some_iff.1 h
      cases he
      exact readText_inside_ne _ _ cs hread
    · have hhead : (c :: (literalQuotes.escape cs ++ '\x27' :: rest)).head? ≠ some '\x27' :=
        fun he => hq (Option.some.inj he)
      rw [escape_cons hq, List.cons_append, readText_quote hhead] at h
      have hlength := congrArg List.length (Prod.mk.inj (Option.some.inj h)).2
      simp only [List.length_cons, List.length_append] at hlength
      omega

/-- What is read up to the end of a literal is no longer than the text, and as long only if no
backslash is lost. -/
theorem length_of_readText_escape (h : rest.head? ≠ some '\x27') : ∀ {cs text : List Char},
    e.readText (literalQuotes.escape cs ++ '\x27' :: rest) = some (text, rest) →
      text.length ≤ cs.length ∧ (text.length = cs.length → e.Keeps cs)
  | [], text, hread => by
    obtain rfl : text = [] := by
      rw [show literalQuotes.escape [] = [] from rfl, List.nil_append, readText_quote h] at hread
      exact (Prod.mk.inj (Option.some.inj hread)).1.symm
    exact ⟨le_rfl, fun _ => trivial⟩
  | c :: cs, text, hread => by
    by_cases hb : c = '\\'
    · cases cs with
      | nil =>
        -- the backslash takes the closing quote
        rw [hb, escape_cons (by decide)] at hread
        obtain ⟨⟨text', rest'⟩, hread, he⟩ :=
          Option.map_eq_some_iff.1 ((readText_backslash _ _).symm.trans hread)
        cases he
        exact absurd (length_lt_of_readText hread) (lt_irrefl _)
      | cons d cs =>
        by_cases hq : d = '\x27'
        · -- the backslash takes the first of two quotes
          rw [hb, hq, escape_cons (by decide), escape_quote] at hread
          obtain ⟨⟨text', rest'⟩, hread, he⟩ :=
            Option.map_eq_some_iff.1 ((readText_backslash _ _).symm.trans hread)
          cases he
          exact absurd hread (readText_inside_ne _ _ cs)
        · rw [hb, readText_escape_backslash hq] at hread
          obtain ⟨⟨text', rest'⟩, hread, he⟩ := Option.map_eq_some_iff.1 hread
          cases he
          obtain ⟨hle, hkeeps⟩ := length_of_readText_escape h hread
          rw [hb, List.length_append, List.length_cons, List.length_cons]
          rcases e.single_or_self d with ⟨x, hx⟩ | hx
          · rw [hx, List.length_singleton]
            exact ⟨by omega, fun hlength => absurd hlength (by omega)⟩
          · rw [hx, List.length_cons, List.length_singleton]
            refine ⟨by omega, fun hlength => ⟨fun _ => hx, fun hd => ?_, ?_⟩⟩
            · exact absurd hd (ne_of_read_eq_self hx).1
            · exact hkeeps (by omega)
    · rw [readText_escape_cons hb] at hread
      obtain ⟨⟨text', rest'⟩, hread, he⟩ := Option.map_eq_some_iff.1 hread
      cases he
      obtain ⟨hle, hkeeps⟩ := length_of_readText_escape h hread
      refine ⟨Nat.succ_le_succ hle, fun hlength => ⟨fun hc => absurd hc hb, ?_⟩⟩
      exact hkeeps (Nat.succ.inj hlength)

/-- A literal is read back, up to its end, exactly if its text keeps its backslashes. -/
theorem readLiteral_literal_iff {text : String} (h : rest.head? ≠ some '\x27') :
    e.readLiteral ((literal text).toList ++ rest) = some (text.toList, rest) ↔
      e.Keeps text.toList := by
  have hopened : e.readLiteral ((literal text).toList ++ rest) =
      e.readText (literalQuotes.escape text.toList ++ '\x27' :: rest) := by
    rw [toList_literal, Quotes.enclose, List.append_assoc]
    rfl
  rw [hopened]
  exact ⟨fun hread => (length_of_readText_escape h hread).2 rfl, readText_escape h⟩

example : mysql.Keeps "it's 50\\% off".toList ∧ ¬ mysql.Keeps "C:\\new".toList := by decide

end Escapes

end SqlBuilder.Schema
