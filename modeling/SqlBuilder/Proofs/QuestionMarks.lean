import Mathlib.Algebra.Group.Nat.Defs
import Mathlib.Logic.ExistsUnique
import Mathlib.Tactic.ByContra
import Mathlib.Tactic.MkIffOfInductiveProp
import SqlBuilder.Proofs.Placeholders

/-!
# Texts cut at their parameters

A question mark is a parameter if the text in front of it closes every quotation that it opens. Such
a text is made of quotations, each from a quote to the next one of its kind, and of characters that
are no quotes (`Closed`); a quotation that is not closed goes on to the end, and nothing behind its
opening quote is outside. The `Parts` of a text are what stands between its parameters, and every
text has them in one way only (`Parts.cuts_iff_eq_cut`).

Numbering writes the parts with marks between them, as far as these can be counted
(`scan_eq_showing`). The count has 32 bits and a sign, so the marks are the numbers from one on
exactly if there are fewer than `2 ^ 31` of them (`Parts.showing_written_iff`); the mark behind
`$2147483647` is `$-2147483648`. Numbering leaves no parameter behind, so a numbered text is not
changed by numbering it again, and a text behind another one is numbered from the number of
parameters in that on, if no quotation is open between the two (`number_eq_numbered`).
-/

namespace SqlBuilder.Placeholder

/-! ## Texts that close their quotations -/

/-- A text of quotations, each from a quote to the next one of its kind, and of characters that are
no quotes. -/
inductive Closed : List Char → Prop
  | nil : Closed []
  | character {c : Char} {cs : List Char} : isQuote c = false → Closed cs → Closed (c :: cs)
  | quotation {q : Char} {inner cs : List Char} : isQuote q = true → q ∉ inner → Closed cs →
      Closed (q :: (inner ++ q :: cs))

/-- A text that closes the quotation it begins in, if there is one, and those that it opens. -/
def Closes : Option Char → List Char → Prop
  | none, cs => Closed cs
  | some q, cs => ∃ inner rest, cs = inner ++ q :: rest ∧ q ∉ inner ∧ Closed rest

variable {quote : Option Char} {c q : Char} {cs inner : List Char}

theorem after_cons (quote : Option Char) (c : Char) (cs : List Char) :
    after quote (c :: cs) = after (next quote c) cs :=
  rfl

/-- A quotation goes on to the next quote of its kind. -/
theorem after_inner (h : q ∉ inner) (cs : List Char) :
    after (some q) (inner ++ q :: cs) = after none cs := by
  induction inner with
  | nil => rw [List.nil_append, after_cons, next, if_pos rfl]
  | cons c inner ih =>
    obtain ⟨hc, hinner⟩ := List.ne_and_not_mem_of_not_mem_cons h
    rw [List.cons_append, after_cons, next, if_neg hc.symm, ih hinner]

theorem after_of_closed (h : Closed cs) : after none cs = none := by
  induction h with
  | nil => rfl
  | character hc _ ih => rwa [after_cons, next, if_neg (by simp [hc])]
  | quotation hq hinner _ ih => rwa [after_cons, next, if_pos hq, after_inner hinner]

theorem closes_of_after (h : after quote cs = none) : Closes quote cs := by
  induction cs generalizing quote with
  | nil =>
    obtain rfl : quote = none := h
    exact Closed.nil
  | cons c cs ih =>
    rw [after_cons] at h
    have hcs := ih h
    cases quote with
    | none =>
      cases hc : isQuote c with
      | false =>
        rw [next, if_neg (by simp [hc])] at hcs
        exact Closed.character hc hcs
      | true =>
        rw [next, if_pos hc] at hcs
        obtain ⟨inner, rest, rfl, hinner, hrest⟩ := hcs
        exact Closed.quotation hc hinner hrest
    | some q =>
      by_cases hc : c = q
      · rw [next, if_pos hc] at hcs
        exact ⟨[], cs, by rw [hc, List.nil_append], List.not_mem_nil, hcs⟩
      · rw [next, if_neg hc] at hcs
        obtain ⟨inner, rest, rfl, hinner, hrest⟩ := hcs
        exact ⟨c :: inner, rest, rfl, List.not_mem_cons_of_ne_of_not_mem (Ne.symm hc) hinner, hrest⟩

/-- A text closes its quotations exactly if none is open behind it. -/
theorem closes_iff : Closes quote cs ↔ after quote cs = none := by
  refine ⟨fun h => ?_, closes_of_after⟩
  cases quote with
  | none => exact after_of_closed h
  | some q =>
    obtain ⟨inner, rest, rfl, hinner, hrest⟩ := h
    rw [after_inner hinner, after_of_closed hrest]

theorem closes_nil : Closes quote [] ↔ quote = none :=
  closes_iff

theorem closes_cons : Closes quote (c :: cs) ↔ Closes (next quote c) cs := by
  rw [closes_iff, closes_iff, after_cons]

/-! ## Marks -/

/-- So many numbers from the one behind a given number, each with its dollar sign. -/
def numbers (number count : Nat) : List String :=
  (List.range' (number + 1) count).map fun i => "$" ++ toString i

/-- The marks that are written for so many parameters behind a given number of them. -/
def written (number count : Nat) : List String :=
  (List.range' (number + 1) count).map fun i => String.ofList (mark (Int32.ofNat i))

theorem length_numbers (number count : Nat) : (numbers number count).length = count := by
  rw [numbers, List.length_map, List.length_range']

theorem length_written (number count : Nat) : (written number count).length = count := by
  rw [written, List.length_map, List.length_range']

theorem written_succ (number count : Nat) : written number (count + 1) =
    String.ofList (mark (Int32.ofNat number + 1)) :: written (number + 1) count := by
  rw [written, List.range'_succ, List.map_cons, Int32.ofNat_add]
  rfl

/-- A parameter that can be counted is marked by its number. -/
theorem ofList_mark {i : Nat} (h : i < 2 ^ 31) :
    String.ofList (mark (Int32.ofNat i)) = "$" ++ toString i := by
  rw [mark, Int32.toInt_ofNat_of_lt h]
  apply String.toList_inj.1
  rw [String.toList_ofList, String.toList_append]
  rfl

/-- As far as the parameters can be counted, they are numbered. -/
theorem written_eq_numbers {number count : Nat} (h : number + count < 2 ^ 31) :
    written number count = numbers number count := by
  refine List.map_congr_left fun i hi => ofList_mark ?_
  have hlast := (List.mem_range'_1.1 hi).2
  omega

/-- No number has a minus sign. -/
theorem minus_notMem_numbers (number count : Nat) :
    '-' ∉ (numbers number count).flatMap String.toList := by
  intro h
  obtain ⟨x, hx, hminus⟩ := List.mem_flatMap.1 h
  obtain ⟨i, -, rfl⟩ := List.mem_map.1 hx
  rw [String.toList_append] at hminus
  rcases List.mem_append.1 hminus with hsign | hdigit
  · cases List.mem_singleton.1 hsign
  · cases isDigit_of_mem_toString hdigit

/-- The first parameter that cannot be counted is marked by the least number. -/
theorem minus_mem_written {count : Nat} (h : 2 ^ 31 ≤ count) :
    '-' ∈ (written 0 count).flatMap String.toList := by
  refine List.mem_flatMap.2 ⟨"$-2147483648", List.mem_map.2 ⟨2 ^ 31, ?_, by decide⟩, by decide⟩
  exact List.mem_range'_1.2 ⟨by omega, by omega⟩

theorem inert_mark (number : Int32) : Inert (mark number) := by
  have hinert : Piece.Inert (.text ("$" ++ toString number.toInt)) :=
    Piece.inert_textClass.append (Piece.inert_textClass.plain (by decide))
      (Piece.inert_textClass.ofInt number.toInt)
  rwa [Piece.Inert, String.toList_append] at hinert

/-! ## Parts -/

/-- A text in parts: one in front, and one behind each of its parameters. -/
structure Parts where
  first : List Char
  rest : List (List Char)
  deriving DecidableEq

namespace Parts

/-- The parts with question marks between them. -/
def text (p : Parts) : List Char :=
  p.first ++ p.rest.flatMap fun part => '?' :: part

/-- The parts with texts between them. -/
def showing (p : Parts) (marks : List String) : List Char :=
  p.first ++ (List.zipWith (fun mark part => mark.toList ++ part) marks p.rest).flatten

/-- The parts with numbers between them, from the one behind a given number on. -/
def numbered (p : Parts) (number : Nat) : List Char :=
  p.showing (numbers number p.rest.length)

/-- The parts in front of a parameter, of which the first is at zero. -/
def upTo (p : Parts) (i : Nat) : Parts :=
  ⟨p.first, p.rest.take i⟩

/-- The parts are those of a text, read with a quotation open or none: they make the text, and a
question mark in it stands outside quotations exactly if it stands between two of the parts. -/
@[mk_iff]
structure Cuts (p : Parts) (quote : Option Char) (cs : List Char) : Prop where
  text : p.text = cs
  marks : ∀ before behind, cs = before ++ '?' :: behind →
    (Closes quote before ↔ ∃ i < p.rest.length, before = (p.upTo i).text)

/-- The parts with a character in front. -/
def cons (c : Char) (p : Parts) : Parts :=
  ⟨c :: p.first, p.rest⟩

/-- The parts with a question mark in front. -/
def behindMark (p : Parts) : Parts :=
  ⟨[], p.first :: p.rest⟩

variable (p : Parts)

theorem text_cons (c : Char) : (p.cons c).text = c :: p.text :=
  rfl

theorem text_behindMark : p.behindMark.text = '?' :: p.text :=
  rfl

theorem showing_cons (c : Char) (marks : List String) :
    (p.cons c).showing marks = c :: p.showing marks :=
  rfl

theorem showing_behindMark (mark : String) (marks : List String) :
    p.behindMark.showing (mark :: marks) = mark.toList ++ p.showing marks := by
  simp only [showing, behindMark, List.zipWith_cons_cons, List.flatten_cons, List.nil_append,
    List.append_assoc]

theorem upTo_cons (c : Char) (i : Nat) : (p.cons c).upTo i = (p.upTo i).cons c :=
  rfl

theorem upTo_behindMark (i : Nat) : p.behindMark.upTo (i + 1) = (p.upTo i).behindMark :=
  rfl

variable {p}

theorem text_eq_nil_iff : p.text = [] ↔ p = ⟨[], []⟩ := by
  obtain ⟨first, rest⟩ := p
  cases rest with
  | nil => simp [text]
  | cons part rest => simp [text]

/-- A property of the texts in front of all question marks, one character at a time. -/
theorem forall_before_cons {P : List Char → Prop} :
    (∀ before behind, c :: cs = before ++ '?' :: behind → P before) ↔
      (c = '?' → P []) ∧ ∀ before behind, cs = before ++ '?' :: behind → P (c :: before) := by
  constructor
  · intro h
    refine ⟨fun hc => h [] cs (by rw [hc, List.nil_append]), fun before behind hcs => ?_⟩
    exact h (c :: before) behind (by rw [hcs, List.cons_append])
  · rintro ⟨hnil, hcons⟩ before behind hcs
    cases before with
    | nil => exact hnil (List.cons.inj hcs).1
    | cons d before =>
      obtain ⟨rfl, hrest⟩ := List.cons.inj hcs
      exact hcons before behind hrest

theorem cuts_nil_iff : p.Cuts quote [] ↔ p = ⟨[], []⟩ := by
  rw [cuts_iff, text_eq_nil_iff, and_iff_left_iff_imp]
  intro _ before behind h
  exact absurd h.symm (by simp)

/-- A question mark outside quotations begins the text behind an empty part. -/
theorem cuts_behindMark_iff : p.behindMark.Cuts none ('?' :: cs) ↔ p.Cuts none cs := by
  have hnil : Closes none [] ↔ ∃ i < p.behindMark.rest.length, [] = (p.behindMark.upTo i).text :=
    iff_of_true Closed.nil ⟨0, Nat.succ_pos _, rfl⟩
  have hcons (before : List Char) :
      (∃ i < p.behindMark.rest.length, '?' :: before = (p.behindMark.upTo i).text) ↔
        ∃ i < p.rest.length, before = (p.upTo i).text := by
    constructor
    · rintro ⟨i, hi, h⟩
      cases i with
      | zero => cases h
      | succ i =>
        rw [upTo_behindMark, text_behindMark] at h
        exact ⟨i, Nat.lt_of_succ_lt_succ hi, (List.cons.inj h).2⟩
    · rintro ⟨i, hi, rfl⟩
      exact ⟨i + 1, Nat.succ_lt_succ hi, by rw [upTo_behindMark, text_behindMark]⟩
  have hnext : next none '?' = none := rfl
  rw [cuts_iff, cuts_iff, text_behindMark, List.cons_inj_right, forall_before_cons]
  simp only [hnil, hcons, closes_cons, hnext, implies_true, true_and]

/-- Any other character belongs to the first part. -/
theorem cuts_cons_iff (h : ¬ (quote = none ∧ c = '?')) :
    (p.cons c).Cuts quote (c :: cs) ↔ p.Cuts (next quote c) cs := by
  have hnil : c = '?' →
      (Closes quote [] ↔ ∃ i < (p.cons c).rest.length, [] = ((p.cons c).upTo i).text) := by
    refine fun hc => iff_of_false (fun hquote => h ⟨closes_nil.1 hquote, hc⟩) ?_
    rintro ⟨i, -, hi⟩
    cases hi
  rw [cuts_iff, cuts_iff, text_cons, List.cons_inj_right, forall_before_cons, and_iff_right hnil]
  simp only [closes_cons, upTo_cons, text_cons, List.cons_inj_right]
  rfl

/-- A text that begins with a parameter has an empty first part. -/
theorem Cuts.eq_behindMark (h : p.Cuts none ('?' :: cs)) : ∃ p', p = behindMark p' := by
  obtain ⟨first, rest⟩ := p
  -- the empty text in front is that of the parts up to some mark
  obtain ⟨i, hi, hempty⟩ := (h.marks [] cs rfl).1 Closed.nil
  obtain ⟨rfl, -⟩ := Parts.mk.inj (text_eq_nil_iff.1 hempty.symm)
  cases rest with
  | nil => cases hi
  | cons part rest => exact ⟨⟨part, rest⟩, rfl⟩

/-- A text that begins with another character has this in its first part. -/
theorem Cuts.eq_cons (h : p.Cuts quote (c :: cs)) (hc : ¬ (quote = none ∧ c = '?')) :
    ∃ p', p = cons c p' := by
  obtain ⟨first, rest⟩ := p
  obtain ⟨htext, hmarks⟩ := h
  cases first with
  | cons d first =>
    obtain ⟨rfl, -⟩ := List.cons.inj htext
    exact ⟨⟨first, rest⟩, rfl⟩
  | nil =>
    cases rest with
    | nil => cases htext
    | cons part rest =>
      -- with an empty first part the text begins with a parameter
      obtain ⟨rfl, -⟩ := List.cons.inj htext
      have hclosed : Closes quote [] := (hmarks [] cs rfl).2 ⟨0, Nat.succ_pos _, rfl⟩
      exact absurd ⟨closes_nil.1 hclosed, rfl⟩ hc

/-- The parts of a text, read with a quotation open or none. -/
def cut : Option Char → List Char → Parts
  | _, [] => ⟨[], []⟩
  | quote, c :: cs =>
    if quote = none ∧ c = '?' then (cut none cs).behindMark else (cut (next quote c) cs).cons c

/-- A text has parts in one way only. -/
theorem cuts_iff_eq_cut : p.Cuts quote cs ↔ p = cut quote cs := by
  induction cs generalizing quote p with
  | nil => exact cuts_nil_iff
  | cons c cs ih =>
    rw [cut]
    split
    · next hc =>
      obtain ⟨rfl, rfl⟩ := hc
      constructor
      · intro h
        obtain ⟨p', rfl⟩ := h.eq_behindMark
        rw [ih.1 (cuts_behindMark_iff.1 h)]
      · rintro rfl
        exact cuts_behindMark_iff.2 (ih.2 rfl)
    · next hc =>
      constructor
      · intro h
        obtain ⟨p', rfl⟩ := h.eq_cons hc
        rw [ih.1 ((cuts_cons_iff hc).1 h)]
      · rintro rfl
        exact (cuts_cons_iff hc).2 (ih.2 rfl)

/-- A text that is inert belongs to the part behind it. -/
theorem cut_append {xs : List Char} (h : parameters quote xs = 0) (ys : List Char) :
    cut quote (xs ++ ys) =
      ⟨xs ++ (cut (after quote xs) ys).first, (cut (after quote xs) ys).rest⟩ := by
  induction xs generalizing quote with
  | nil => rfl
  | cons c xs ih =>
    rw [parameters] at h
    split at h
    · exact absurd h (Nat.succ_ne_zero _)
    · next hc => rw [List.cons_append, cut, if_neg hc, ih h, cons, after_cons, List.cons_append]

/-- How often a character is shown is a matter of the parts and of the texts between them. -/
theorem count_showing (c : Char) (p : Parts) {marks : List String}
    (h : marks.length = p.rest.length) : (p.showing marks).count c =
      p.first.count c + (p.rest.flatten.count c + (marks.flatMap String.toList).count c) := by
  obtain ⟨first, rest⟩ := p
  rw [showing, List.count_append]
  congr 1
  induction rest generalizing marks with
  | nil =>
    obtain rfl := List.length_eq_zero_iff.1 h
    rfl
  | cons part rest ih =>
    cases marks with
    | nil => cases h
    | cons mark marks =>
      simp only [List.zipWith_cons_cons, List.flatten_cons, List.flatMap_cons, List.count_append,
        ih (Nat.succ.inj h)]
      omega

/-- What is shown is the parts with their numbers exactly if these can be counted. -/
theorem showing_written_iff (p : Parts) :
    p.showing (written 0 p.rest.length) = p.numbered 0 ↔ p.rest.length < 2 ^ 31 := by
  constructor
  · intro h
    by_contra hlimit
    -- only one of the two texts has the minus sign of the least number
    have hminus := congrArg (List.count '-') h
    rw [numbered, count_showing '-' p (length_written 0 _),
      count_showing '-' p (length_numbers 0 _),
      List.count_eq_zero.2 (minus_notMem_numbers 0 p.rest.length)] at hminus
    have hpos := List.count_pos_iff.2 (minus_mem_written (Nat.le_of_not_lt hlimit))
    omega
  · intro h
    rw [numbered, written_eq_numbers (by omega)]

end Parts

/-! ## Numbering -/

/-- Numbering writes marks between the parts. -/
theorem scan_eq_showing (quote : Option Char) (number : Nat) (cs : List Char) :
    scan quote (Int32.ofNat number) cs =
      (Parts.cut quote cs).showing (written number (Parts.cut quote cs).rest.length) := by
  induction cs generalizing quote number with
  | nil => rfl
  | cons c cs ih =>
    rw [scan_cons, Parts.cut]
    split
    · have hnext : Int32.ofNat number + 1 = Int32.ofNat (number + 1) :=
        (Int32.ofNat_add number 1).symm
      rw [Parts.behindMark, List.length_cons, written_succ, ← Parts.behindMark,
        Parts.showing_behindMark, String.toList_ofList, hnext, ih]
    · rw [Parts.showing_cons, ih, Parts.cons]

theorem parameters_eq_length (quote : Option Char) (cs : List Char) :
    parameters quote cs = (Parts.cut quote cs).rest.length := by
  induction cs generalizing quote with
  | nil => rfl
  | cons c cs ih =>
    rw [parameters, Parts.cut]
    split
    · next hc =>
      obtain ⟨rfl, rfl⟩ := hc
      rw [ih, Parts.behindMark, List.length_cons]
      rfl
    · rw [ih, Parts.cons, Nat.add_zero]

/-- A numbered text has no parameters. -/
theorem parameters_scan (quote : Option Char) (count : Int32) (cs : List Char) :
    parameters quote (scan quote count cs) = 0 := by
  induction cs generalizing quote count with
  | nil => cases quote <;> rfl
  | cons c cs ih =>
    rw [scan_cons]
    split
    · next hc =>
      obtain ⟨hclosed, hunmarked⟩ := inert_mark (count + 1)
      rw [hc.1, parameters_append, hunmarked, hclosed, ih]
    · next hc => rw [parameters, ih, if_neg hc]

/-- What numbering writes, with the parts of the text. -/
theorem number_eq_showing (sql : String) : number sql = String.ofList
    ((Parts.cut none sql.toList).showing (written 0 (Parts.cut none sql.toList).rest.length)) :=
  congrArg String.ofList (scan_eq_showing none 0 sql.toList)

/-- A text is cut at its parameters in one way only. It is numbered by writing the first number in
the place of the first parameter and so on, exactly if there are fewer than `2 ^ 31` of them.
Numbering it again changes nothing. If no quotation is open at its end, a text behind it is numbered
apart, with the numbers raised by the number of its parameters, where all of them can be counted. -/
theorem number_eq_numbered (sql : String) :
    (∃! p : Parts, p.Cuts none sql.toList) ∧ number (number sql) = number sql ∧
      ∀ p : Parts, p.Cuts none sql.toList →
        (number sql = String.ofList (p.numbered 0) ↔ p.rest.length < 2 ^ 31) ∧
          ∀ (more : String) (q : Parts), Closed sql.toList → q.Cuts none more.toList →
            p.rest.length + q.rest.length < 2 ^ 31 →
              number (sql ++ more) =
                number sql ++ String.ofList (q.numbered p.rest.length) := by
  refine ⟨⟨Parts.cut none sql.toList, Parts.cuts_iff_eq_cut.2 rfl,
    fun p hp => Parts.cuts_iff_eq_cut.1 hp⟩, ?_, ?_⟩
  · rw [number, number, String.toList_ofList, scan_eq_self 0 (parameters_scan none 0 sql.toList)]
  · intro p hp
    obtain rfl := Parts.cuts_iff_eq_cut.1 hp
    refine ⟨?_, fun more q hclosed hq hlimit => ?_⟩
    · rw [number_eq_showing, String.ofList_inj, Parts.showing_written_iff]
    · obtain rfl := Parts.cuts_iff_eq_cut.1 hq
      rw [number, number, String.toList_append, scan_append, after_of_closed hclosed,
        parameters_eq_length, Int32.zero_add, scan_eq_showing, written_eq_numbers hlimit,
        ← Parts.numbered, String.ofList_append]

/-- A condition with a doubled quote. -/
def doubledQuote : Parts :=
  ⟨"a = ".toList, [" AND b = 'it''s ?'".toList]⟩

/-- A condition with quotes of one kind between those of the other, and a quotation that is not
closed. -/
def unclosedQuote : Parts :=
  ⟨" OR \"it's ?\" = ".toList, [" AND c = 'open \"?\" ?".toList]⟩

theorem number_eq_numbered_unclosed :
    doubledQuote.Cuts none "a = ? AND b = 'it''s ?'".toList ∧
      unclosedQuote.Cuts none " OR \"it's ?\" = ? AND c = 'open \"?\" ?".toList ∧
      Closed "a = ? AND b = 'it''s ?'".toList ∧
      doubledQuote.rest.length + unclosedQuote.rest.length < 2 ^ 31 ∧
      number ("a = ? AND b = 'it''s ?'" ++ " OR \"it's ?\" = ? AND c = 'open \"?\" ?") =
        "a = $1 AND b = 'it''s ?' OR \"it's ?\" = $2 AND c = 'open \"?\" ?" := by
  have hp : doubledQuote.Cuts none "a = ? AND b = 'it''s ?'".toList :=
    Parts.cuts_iff_eq_cut.2 (by decide)
  have hq : unclosedQuote.Cuts none " OR \"it's ?\" = ? AND c = 'open \"?\" ?".toList :=
    Parts.cuts_iff_eq_cut.2 (by decide)
  have hclosed : Closes none "a = ? AND b = 'it''s ?'".toList := closes_of_after rfl
  have hlimit : doubledQuote.rest.length + unclosedQuote.rest.length < 2 ^ 31 := by decide
  obtain ⟨-, -, hnumber⟩ := number_eq_numbered "a = ? AND b = 'it''s ?'"
  obtain ⟨hfirst, hboth⟩ := hnumber doubledQuote hp
  refine ⟨hp, hq, hclosed, hlimit, ?_⟩
  rw [hboth _ unclosedQuote hclosed hq hlimit, hfirst.2 (by decide)]
  rfl

/-- So many question marks, with nothing between them. -/
def questionMarks (count : Nat) : Parts :=
  ⟨[], List.replicate count []⟩

theorem cut_questionMarks (count : Nat) :
    Parts.cut none (List.replicate count '?') = questionMarks count := by
  induction count with
  | zero => rfl
  | succ count ih =>
    rw [List.replicate_succ, Parts.cut, if_pos ⟨rfl, rfl⟩, ih, questionMarks, questionMarks,
      List.replicate_succ]
    rfl

theorem number_questionMarks_iff (count : Nat) :
    number (String.ofList (List.replicate count '?')) =
        String.ofList ((questionMarks count).numbered 0) ↔ count < 2 ^ 31 := by
  have hlength : (questionMarks count).rest.length = count := List.length_replicate
  rw [number_eq_showing, String.toList_ofList, cut_questionMarks, String.ofList_inj,
    Parts.showing_written_iff, hlength]

/-- A parameter too many to be counted has no number of its own. -/
theorem not_number_eq_numbered :
    (questionMarks (2 ^ 31)).Cuts none (String.ofList (List.replicate (2 ^ 31) '?')).toList ∧
      number (String.ofList (List.replicate (2 ^ 31) '?')) ≠
        String.ofList ((questionMarks (2 ^ 31)).numbered 0) := by
  constructor
  · rw [String.toList_ofList]
    exact Parts.cuts_iff_eq_cut.2 (cut_questionMarks _).symm
  · rw [Ne, number_questionMarks_iff]
    exact Nat.lt_irrefl _

end SqlBuilder.Placeholder
