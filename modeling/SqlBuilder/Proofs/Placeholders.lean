import SqlBuilder.Proofs.Pieces
import SqlBuilder.Proofs.References

/-!
# Quotations and parameters

The text of a statement is numbered from the left with a quotation open or none. `after` is the
quotation that is open behind a text and `parameters` the number of question marks in it that stand
outside quotations; a text is numbered in parts, each part from where the one before it leaves off
(`scan_append`).

A text is `Inert` if it closes what it opens and has no parameters: it stands in a statement
unchanged and changes nothing behind it. Names between double quotes are inert whatever they hold,
question marks and quotes of both kinds included, for a doubled quote closes the quotation and opens
it again (`Naming.inert_reference`, `Naming.inert_table`).
-/

namespace SqlBuilder

namespace Placeholder

/-- The quotation open behind a character. -/
def next : Option Char → Char → Option Char
  | some q, c => if c = q then none else some q
  | none, c => if isQuote c then some c else none

/-- The quotation open behind a text. -/
def after (quote : Option Char) (cs : List Char) : Option Char :=
  cs.foldl next quote

/-- The number of parameters in a text. -/
def parameters : Option Char → List Char → Nat
  | _, [] => 0
  | quote, c :: cs => parameters (next quote c) cs + if quote = none ∧ c = '?' then 1 else 0

theorem scan_cons (quote : Option Char) (count : Int32) (c : Char) (cs : List Char) :
    scan quote count (c :: cs) =
      if quote = none ∧ c = '?' then mark (count + 1) ++ scan none (count + 1) cs
      else c :: scan (next quote c) count cs := by
  cases quote with
  | some q => simp [scan, next]
  | none =>
    by_cases hc : c = '?'
    · subst hc
      rfl
    · by_cases hquote : isQuote c = true <;> simp [scan, next, hc, hquote]

/-- A text is numbered in parts, each from where the one before it leaves off. -/
theorem scan_append (quote : Option Char) (count : Int32) (xs ys : List Char) :
    scan quote count (xs ++ ys) =
      scan quote count xs ++
        scan (after quote xs) (count + Int32.ofNat (parameters quote xs)) ys := by
  induction xs generalizing quote count with
  | nil => exact congrArg (scan quote · ys) (Int32.add_zero count).symm
  | cons c cs ih =>
    rw [List.cons_append, scan_cons, scan_cons, after, List.foldl_cons, ← after, parameters]
    split
    · next h =>
      obtain ⟨rfl, rfl⟩ := h
      have hnext : next none '?' = none := rfl
      have hcount (n : Nat) : count + 1 + Int32.ofNat n = count + Int32.ofNat (n + 1) := by
        rw [Int32.ofNat_add, Int32.add_assoc, Int32.add_comm 1]
        rfl
      rw [ih, hnext, hcount, List.append_assoc]
    · rw [ih, Nat.add_zero, List.cons_append]

theorem after_append (quote : Option Char) (xs ys : List Char) :
    after quote (xs ++ ys) = after (after quote xs) ys :=
  List.foldl_append

theorem parameters_append (quote : Option Char) (xs ys : List Char) :
    parameters quote (xs ++ ys) = parameters quote xs + parameters (after quote xs) ys := by
  induction xs generalizing quote with
  | nil => exact (Nat.zero_add _).symm
  | cons c cs ih =>
    rw [List.cons_append, parameters, parameters, ih, after, after, List.foldl_cons]
    omega

/-- A text without parameters stays as it is. -/
theorem scan_eq_self {quote : Option Char} (count : Int32) {cs : List Char}
    (h : parameters quote cs = 0) : scan quote count cs = cs := by
  induction cs generalizing quote with
  | nil =>
    cases quote <;> rfl
  | cons c cs ih =>
    rw [parameters] at h
    split at h
    · exact absurd h (Nat.succ_ne_zero _)
    · next hc => rw [scan_cons, if_neg hc, ih h]

/-- A text that closes the quotations it opens and has no parameters. -/
structure Inert (cs : List Char) : Prop where
  closed : after none cs = none
  unmarked : parameters none cs = 0

namespace Inert

theorem nil : Inert [] :=
  ⟨rfl, rfl⟩

theorem append {xs ys : List Char} (hx : Inert xs) (hy : Inert ys) : Inert (xs ++ ys) := by
  constructor
  · rw [after_append, hx.closed, hy.closed]
  · rw [parameters_append, hx.closed, hx.unmarked, hy.unmarked]

theorem plain {cs : List Char} (h : cs.all isPlain = true) : Inert cs := by
  induction cs with
  | nil => exact nil
  | cons c cs ih =>
    rw [List.all_cons, Bool.and_eq_true] at h
    have hc : c ≠ '?' ∧ isQuote c = false := by simpa [isPlain] using h.1
    have hnext : next none c = none := by simp [next, hc.2]
    obtain ⟨hclosed, hunmarked⟩ := ih h.2
    constructor
    · rw [after, List.foldl_cons, hnext]
      exact hclosed
    · rw [parameters, hnext, hunmarked, if_neg fun he => hc.1 he.2]

theorem intercalate {sep : List Char} {parts : List (List Char)} (hsep : Inert sep)
    (hparts : ∀ p ∈ parts, Inert p) : Inert (sep.intercalate parts) := by
  induction parts with
  | nil => exact nil
  | cons p ps ih =>
    obtain ⟨hp, hps⟩ := List.forall_mem_cons.1 hparts
    cases ps with
    | nil => simpa using hp
    | cons r rs =>
      rw [List.intercalate_cons_cons]
      exact (hp.append hsep).append (ih hps)

end Inert

end Placeholder

/-- An inert text or a bound value. -/
def Piece.Inert : Piece → Prop
  | .text sql => Placeholder.Inert sql.toList
  | .fragment _ _ => False
  | .param v => v.isRaw = false

theorem Piece.inert_textClass : TextClass Piece.Inert where
  append {a b} ha hb := by
    rw [Piece.Inert, String.toList_append]
    exact Placeholder.Inert.append ha hb
  plain hs := Placeholder.Inert.plain hs

open Placeholder

/-! ## Names -/

theorem ne_mark_of_isQuote {c : Char} (h : isQuote c = true) : c ≠ '?' := by
  rintro rfl
  exact absurd h (by decide)

/-- Inside a quotation a text with its quotes doubled leaves the quotation open. -/
theorem Quotes.inside_escape {q : Quotes} (hclosing : isQuote q.closing = true) (cs : List Char) :
    after (some q.closing) (q.escape cs) = some q.closing ∧
      parameters (some q.closing) (q.escape cs) = 0 := by
  have hmark : q.closing ≠ '?' := ne_mark_of_isQuote hclosing
  induction cs with
  | nil => exact ⟨rfl, rfl⟩
  | cons c cs ih =>
    have hhead : after (some q.closing) (if c = q.closing then [c, c] else [c]) = some q.closing ∧
        parameters (some q.closing) (if c = q.closing then [c, c] else [c]) = 0 := by
      by_cases hc : c = q.closing
      · simp [hc, hclosing, hmark, after, parameters, next]
      · simp [hc, after, parameters, next]
    rw [escape_cons, after_append, parameters_append, hhead.1, hhead.2, ih.1, ih.2]
    exact ⟨rfl, rfl⟩

/-- A text between quotes is inert, whatever it holds. -/
theorem Quotes.inert_enclose {q : Quotes} (hopening : q.opening = q.closing)
    (hclosing : isQuote q.closing = true) (cs : List Char) : Inert (q.enclose cs) := by
  obtain ⟨hafter, hparameters⟩ := inside_escape hclosing cs
  have hmark : q.closing ≠ '?' := ne_mark_of_isQuote hclosing
  have hopen : next none q.closing = some q.closing := if_pos hclosing
  have hclose : next (some q.closing) q.closing = none := if_pos rfl
  rw [enclose, hopening]
  constructor
  · rw [List.cons_append, after, List.foldl_cons, hopen, ← after, after_append, hafter]
    exact hclose
  · rw [List.cons_append, parameters, hopen, parameters_append, hparameters, hafter]
    simp [parameters, hmark]

/-- No name of a reference is between quotes already. -/
def Reference.Unquoted (q : Quotes) (r : Reference) : Prop :=
  ∀ name ∈ r.names, q.isQuoted name = false

instance (q : Quotes) (r : Reference) : Decidable (r.Unquoted q) :=
  inferInstanceAs (Decidable (∀ name ∈ r.names, q.isQuoted name = false))

namespace Naming

variable {n : Naming} (hquotes : n.quotes = Dialect.quotes .postgres)

include hquotes in
theorem inert_quote {cs : List Char} (h : n.quotes.isQuoted cs = false) :
    Inert (n.quotes.quote cs) := by
  by_cases hstar : cs = ['*']
  · have hstarred : n.quotes.quote cs = ['*'] := by simp [Quotes.quote, hstar]
    rw [hstarred]
    exact Inert.plain (by decide)
  · rw [Quotes.quote_eq_enclose hstar h]
    exact Quotes.inert_enclose (by rw [hquotes]; rfl) (by rw [hquotes]; rfl) cs

variable (hfree : '\x22' ∉ n.tablePrefix.toList)

include hquotes hfree in
theorem inert_tableSegment {cs : List Char} (h : n.quotes.isQuoted cs = false) :
    Inert (n.tableSegment cs) := by
  have hprefixed : n.quotes.isQuoted (n.tablePrefix.toList ++ cs) = false := by
    cases hp : n.tablePrefix.toList with
    | nil => exact h
    | cons c ps =>
      have hc : c ≠ n.quotes.opening := by
        rintro rfl
        rw [hp, hquotes] at hfree
        exact hfree List.mem_cons_self
      simp [Quotes.isQuoted, hc]
  rw [tableSegment, h]
  exact inert_quote hquotes hprefixed

include hquotes hfree in
theorem inert_columnSegments {segments : List (List Char)}
    (h : ∀ s ∈ segments, n.quotes.isQuoted s = false) :
    ∀ s ∈ n.columnSegments segments, Inert s := by
  have hmap {ss : List (List Char)} (hss : ∀ s ∈ ss, n.quotes.isQuoted s = false) :
      ∀ s ∈ ss.map n.quotes.quote, Inert s := by
    intro s hs
    obtain ⟨x, hx, rfl⟩ := List.mem_map.1 hs
    exact inert_quote hquotes (hss x hx)
  unfold columnSegments
  split
  · obtain ⟨hfirst, hrest⟩ := List.forall_mem_cons.1 h
    exact List.forall_mem_cons.2 ⟨inert_tableSegment hquotes hfree hfirst, hmap hrest⟩
  · exact hmap h

include hquotes hfree in
theorem inert_tableSegments {segments : List (List Char)}
    (h : ∀ s ∈ segments, n.quotes.isQuoted s = false) :
    ∀ s ∈ n.tableSegments segments, Inert s := by
  have hinit : ∀ s ∈ segments.dropLast, n.quotes.isQuoted s = false := fun s hs =>
    h s (List.dropLast_subset _ hs)
  intro s hs
  rcases List.mem_append.1 hs with hs | hs
  · exact inert_columnSegments hquotes hfree hinit s hs
  · obtain ⟨last, hlast, rfl⟩ := Option.map_eq_some_iff.1 (Option.mem_toList.1 hs)
    exact inert_tableSegment hquotes hfree (h last (List.mem_of_getLast? hlast))

/-- The path of a reference is the text of its name, cut at points. -/
theorem inert_aliased {path : List Char → List Char} {cs : List Char}
    (hquotes : n.quotes = Dialect.quotes .postgres)
    (hpath : ∀ name, name.splitOn '.' = (Reference.ofText cs).path → Inert (path name))
    (h : (Reference.ofText cs).Unquoted n.quotes) : Inert (n.aliased path cs) := by
  unfold aliased
  unfold Reference.ofText at h hpath
  cases hcut : cutAlias? cs with
  | some cut =>
    obtain ⟨name, label⟩ := cut
    rw [hcut] at h hpath
    have hlabel : n.quotes.isQuoted label = false := h label (by simp [Reference.names])
    exact ((hpath name rfl).append (Inert.plain (by decide))).append (inert_quote hquotes hlabel)
  | none =>
    rw [hcut] at hpath
    exact hpath cs rfl

include hquotes hfree in
theorem inert_reference {column : String}
    (h : (Reference.ofText column.toList).Unquoted n.quotes) :
    Inert (n.reference column).toList := by
  rw [reference, String.toList_ofList]
  refine inert_aliased hquotes (fun name hname => ?_) h
  refine Inert.intercalate (Inert.plain (by decide)) ?_
  rw [hname]
  exact inert_columnSegments hquotes hfree fun s hs => h s (List.mem_append_left _ hs)

include hquotes hfree in
theorem inert_table {name : String} (h : (Reference.ofText name.toList).Unquoted n.quotes)
    (hwhole : n.quotes.isQuoted (['.'].intercalate (Reference.ofText name.toList).path) = false) :
    Inert (n.table name).toList := by
  rw [table, String.toList_ofList]
  refine inert_aliased hquotes (fun cs hcs => ?_) h
  rw [← hcs, List.intercalate_splitOn] at hwhole
  rw [tablePath, hwhole]
  refine Inert.intercalate (Inert.plain (by decide)) ?_
  rw [hcs]
  exact inert_tableSegments hquotes hfree fun s hs => h s (List.mem_append_left _ hs)

end Naming

end SqlBuilder
