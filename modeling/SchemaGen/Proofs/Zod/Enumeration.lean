import Mathlib.Data.List.Forall2
import SchemaGen.Proofs.Run.Tree
import SchemaGen.Proofs.Schema.Numeral
import SchemaGen.Proofs.Zod.TextLiteral

namespace SchemaGen

namespace Schema

open Syntax TypeScript

/-! ### Members -/

theorem wholeNumber?_of_literalUnits? {cs : List Char} {v : List Nat} (h : literalUnits? cs = some v) :
    wholeNumber? cs = none := by
  obtain ⟨quote, contents, hquote, rfl, -⟩ := exists_of_literalUnits? h
  have hfirst : isNumeralChar quote = false := by
    rcases (by simpa [isQuote] using hquote : quote = '"' ∨ quote = '\'') with rfl | rfl <;> decide
  have hdigits : wholeDigits? (quote :: (contents ++ [quote])) = none := by
    by_contra hne
    obtain ⟨digits, hdigits⟩ := Option.ne_none_iff_exists'.1 hne
    have hchars := isNumeralChar_of_digitsOf? (Option.filter_eq_some_iff.1 hdigits).1
    exact absurd (hchars quote (by simp)) (by simp [hfirst])
  rcases (by simpa [isQuote] using hquote : quote = '"' ∨ quote = '\'') with rfl | rfl
  · exact congrArg (Option.map _) hdigits
  · exact congrArg (Option.map _) hdigits

/-- A member of an enumeration as it is written: the name, which can be in quotes, and the value. -/
structure EnumMember where
  name : String
  initializer : Option String
  deriving DecidableEq

def isQuoted (name : String) : Bool := name.toList.head?.any isQuote

namespace EnumMember

def text? (m : EnumMember) : Option (List Nat) := m.initializer.bind fun s => literalUnits? s.toList

def number? (m : EnumMember) : Option Int := m.initializer.bind fun s => wholeNumber? s.toList

def isText (m : EnumMember) : Bool := m.text?.isSome

/-- Whether the number of a member has separators, or white space behind its sign. -/
def isSpaced (m : EnumMember) : Bool :=
  m.initializer.any fun s => (wholeNumber? s.toList).isSome && !isPlain s.toList

def isLost (m : EnumMember) : Bool := m.initializer.isNone && isQuoted m.name

/-- Whether a member that is read has a number. -/
def isCounted (m : EnumMember) : Bool := !m.isText && !m.isLost

end EnumMember

def SpellsName (n : Node) (name : String) : Prop :=
  n.text = name ∧ n.kind = if isQuoted name then "string" else "property_identifier"

/-- A node is a value: a text literal, or a whole number of 64 bits that is not the largest one. -/
inductive SpellsValue (n : Node) : Prop
  | text (hkind : n.kind = "string") (htext : (literalUnits? n.text.toList).isSome)
  | number (hkind : n.kind = "number" ∨ n.kind = "unary_expression") {i : Int}
      (hnumber : wholeNumber? n.text.toList = some i)
      (hlow : -9223372036854775808 ≤ i) (hhigh : i < 9223372036854775807)

inductive SpellsMember (n : Node) : EnumMember → Prop
  | bare {name : String} (hname : SpellsName n name) : SpellsMember n ⟨name, none⟩
  | assigned {key value : Node} {name : String} (hkind : n.kind = "enum_assignment")
      (hkey : n.field? "name" = some key) (hname : SpellsName key name)
      (hvalue : n.field? "value" = some value) (hspells : SpellsValue value) :
      SpellsMember n ⟨name, some value.text⟩

/-- The value of a member that is given none, behind one with the given value. -/
def nextValue (before : Option Int) : Int := before.elim 0 (· + 1)

/-- Each member has its number, behind a member with the number `before`: the one that it is given, or the
next one. -/
inductive Counts : Option Int → List EnumMember → List Variant → Prop
  | nil {before} : Counts before [] []
  | given {before m ms i vs} (hnumber : m.number? = some i) (hrest : Counts (some i) ms vs) :
      Counts before (m :: ms) (⟨i, some m.name⟩ :: vs)
  | next {before m ms vs} (hnone : m.initializer = none)
      (hrest : Counts (some (nextValue before)) ms vs) :
      Counts before (m :: ms) (⟨nextValue before, some m.name⟩ :: vs)

/-- Behind a member with the number `before`, no number of a member that is read is the largest one of 64
bits, so that there is a next one. -/
def isCountable : Option Int → List EnumMember → Bool
  | _, [] => true
  | before, m :: ms =>
    if m.isCounted then
      decide (m.number?.getD (nextValue before) < 9223372036854775807) &&
        isCountable (some (m.number?.getD (nextValue before))) ms
    else isCountable before ms

/-- A text denotes between double quotes what a member is given. -/
def Denotes (contents : String) (m : EnumMember) : Prop :=
  ∃ v, m.text? = some v ∧ literalUnits? (Zod.quoted contents).toList = some v

/-- The enumeration has the value of every member, in their order. -/
def Enumeration.Lists : Enumeration → List EnumMember → Prop
  | .texts values, ms => List.Forall₂ Denotes values ms
  | .numbers variants, ms => Counts none ms variants

/-! ### Reading -/

/-- What is read of a member behind those that gave `t`, which is nothing if the member is lost. -/
inductive Tally.Takes (t : Tally) (m : EnumMember) : Option Tally → Prop
  | lost (h : m.isLost = true) : Takes t m (some t)
  | spaced (h : m.isSpaced = true) : Takes t m none
  | text {contents : String} (h : Denotes contents m) :
      Takes t m (some { t with texts := t.texts ++ [contents] })
  | given {i : Int} (hnumber : m.number? = some i) (hlow : -9223372036854775808 ≤ i)
      (hspaced : m.isSpaced = false) : Takes t m (some (t.number i (some m.name)))
  | next (hnone : m.initializer = none) (hlost : m.isLost = false) :
      Takes t m (some (t.number t.next (some m.name)))

theorem Tally.add_takes {n : Node} {m : EnumMember} (h : SpellsMember n m) (t : Tally) :
    t.Takes m (t.add n) := by
  cases h with
  | @bare name hname =>
    obtain ⟨htext, hkind⟩ := hname
    cases hquoted : isQuoted name with
    | true =>
      rw [hquoted, if_pos rfl] at hkind
      have hadd : t.add n = some t := by
        rw [Tally.add, hkind]
        rfl
      rw [hadd]
      exact .lost hquoted
    | false =>
      rw [hquoted, if_neg (by decide)] at hkind
      have hadd : t.add n = some (t.number t.next (some name)) := by
        simp only [Tally.add, hkind, htext]
      rw [hadd]
      exact .next rfl hquoted
  | @assigned key value name hkind hkey hname hvalue hspells =>
    cases hspells with
    | text hstring htext =>
      obtain ⟨v, hv⟩ := Option.isSome_iff_exists.1 htext
      have hadd : t.add n =
          some { t with texts := t.texts ++ [onChars Literal.doubleQuoted value.text] } := by
        simp only [Tally.add, hkind, hvalue, hstring, if_pos]
      rw [hadd]
      exact .text ⟨v, hv, Zod.literalUnits?_quoted_doubleQuoted hv⟩
    | @number hkind' i hnumber hlow hhigh =>
      have hstring : value.kind ≠ "string" := by
        rintro heq
        rcases hkind' with h | h <;> exact absurd (heq.symm.trans h) (by decide)
      have hadd : t.add n =
          (Numeral.integer? value.text.toList).map (t.number · (some name)) := by
        simp only [Tally.add, hkind, hvalue, hkey, if_neg hstring, Option.map_some, hname.1]
      rw [hadd, Numeral.integer?_of_wholeNumber? hnumber hlow (by omega)]
      cases hplain : isPlain value.text.toList with
      | true => exact .given hnumber hlow (by simp [EnumMember.isSpaced, hplain])
      | false => exact .spaced (by simp [EnumMember.isSpaced, hnumber, hplain])

theorem Denotes.isText {contents : String} {m : EnumMember} (h : Denotes contents m) :
    m.isText = true := by
  obtain ⟨v, hv, -⟩ := h
  rw [EnumMember.isText, hv, Option.isSome_some]

theorem Denotes.isSpaced {contents : String} {m : EnumMember} (h : Denotes contents m) :
    m.isSpaced = false := by
  obtain ⟨v, hv, -⟩ := h
  obtain ⟨s, hs, hunits⟩ := Option.bind_eq_some_iff.1 hv
  simp [EnumMember.isSpaced, hs, wholeNumber?_of_literalUnits? hunits]

theorem EnumMember.isText_of_number? {m : EnumMember} {i : Int} (h : m.number? = some i) :
    m.isText = false := by
  obtain ⟨s, hs, hi⟩ := Option.bind_eq_some_iff.1 h
  rw [EnumMember.isText, Option.isSome_eq_false_iff, Option.isNone_iff_eq_none]
  by_contra hne
  obtain ⟨v, hv⟩ := Option.ne_none_iff_exists'.1 hne
  rw [text?, hs, Option.bind_some] at hv
  exact absurd (hi.symm.trans (wholeNumber?_of_literalUnits? hv)) (by simp)

theorem Denotes.isLost {contents : String} {m : EnumMember} (h : Denotes contents m) :
    m.isLost = false := by
  obtain ⟨v, hv, -⟩ := h
  obtain ⟨s, hs, -⟩ := Option.bind_eq_some_iff.1 hv
  simp [EnumMember.isLost, hs]

theorem EnumMember.isLost_of_number? {m : EnumMember} {i : Int} (h : m.number? = some i) :
    m.isLost = false := by
  obtain ⟨s, hs, -⟩ := Option.bind_eq_some_iff.1 h
  simp [isLost, hs]

theorem EnumMember.isCounted_of_number? {m : EnumMember} {i : Int} (h : m.number? = some i) :
    m.isCounted = true := by
  rw [isCounted, isText_of_number? h, isLost_of_number? h]
  rfl

theorem EnumMember.isCounted_of_initializer {m : EnumMember} (hnone : m.initializer = none)
    (hlost : m.isLost = false) : m.isCounted = true := by
  simp [isCounted, isText, text?, hnone, hlost]

theorem EnumMember.isText_of_isLost {m : EnumMember} (h : m.isLost = true) : m.isText = false := by
  rw [isLost, Bool.and_eq_true, Option.isNone_iff_eq_none] at h
  simp [isText, text?, h.1]

theorem EnumMember.isSpaced_of_isLost {m : EnumMember} (h : m.isLost = true) :
    m.isSpaced = false := by
  rw [isLost, Bool.and_eq_true, Option.isNone_iff_eq_none] at h
  simp [isSpaced, h.1]

/-- The texts and the numbers of the members that are not lost, behind a member with the number `before`. -/
inductive Found : Option Int → List EnumMember → List String → List Variant → Prop
  | nil {before} : Found before [] [] []
  | lost {before m ms values vs} (hlost : m.isLost = true) (hrest : Found before ms values vs) :
      Found before (m :: ms) values vs
  | text {before m ms contents values vs} (hdenotes : Denotes contents m)
      (hrest : Found before ms values vs) : Found before (m :: ms) (contents :: values) vs
  | given {before m ms i values vs} (hnumber : m.number? = some i)
      (hrest : Found (some i) ms values vs) :
      Found before (m :: ms) values (⟨i, some m.name⟩ :: vs)
  | next {before m ms values vs} (hnone : m.initializer = none) (hlost : m.isLost = false)
      (hrest : Found (some (nextValue before)) ms values vs) :
      Found before (m :: ms) values (⟨nextValue before, some m.name⟩ :: vs)

theorem Tally.Takes.eq_none_iff {t : Tally} {m : EnumMember} {r : Option Tally} (h : t.Takes m r) :
    r = none ↔ m.isSpaced = true := by
  cases h with
  | lost hlost => simp [EnumMember.isSpaced_of_isLost hlost]
  | spaced hspaced => simp [hspaced]
  | text hdenotes => simp [hdenotes.isSpaced]
  | given _ _ hspaced => simp [hspaced]
  | next hnone _ => simp [EnumMember.isSpaced, hnone]

/-- There is no answer exactly if a number is spaced. -/
theorem Tally.foldlM_add_eq_none_iff {ns : List Node} {ms : List EnumMember}
    (h : List.Forall₂ SpellsMember ns ms) (t : Tally) :
    ns.foldlM Tally.add t = none ↔ ∃ m ∈ ms, m.isSpaced = true := by
  induction h generalizing t with
  | nil => simp
  | @cons n m ns ms hm _ ih =>
    have hnone := (Tally.add_takes hm t).eq_none_iff
    rw [List.foldlM_cons, List.exists_mem_cons_iff, ← hnone]
    cases t.add n with
    | none => simp
    | some t' => simpa using ih t'

theorem Tally.next_number {t : Tally} {i : Int} {name : Option String} (hlow : -9223372036854775808 ≤ i)
    (hhigh : i < 9223372036854775807) : (t.number i name).next = nextValue (some i) :=
  Numeral.wrapped_eq (by omega) (by omega)

/-- An answer has the texts and the numbers of the members behind those from before. -/
theorem Tally.foldlM_add_eq_some {ns : List Node} {ms : List EnumMember}
    (h : List.Forall₂ SpellsMember ns ms) {before : Option Int} {t t' : Tally}
    (hcount : isCountable before ms = true) (hlow : -9223372036854775808 ≤ nextValue before)
    (hnext : t.next = nextValue before) (hfold : ns.foldlM Tally.add t = some t') :
    ∃ values variants, t'.texts = t.texts ++ values ∧ t'.numbers = t.numbers ++ variants ∧
      Found before ms values variants := by
  induction h generalizing before t with
  | nil =>
    obtain rfl := Option.some.inj hfold
    exact ⟨[], [], by simp, by simp, .nil⟩
  | @cons n m ns ms hm _ ih =>
    have htakes := Tally.add_takes hm t
    rw [List.foldlM_cons] at hfold
    rw [isCountable] at hcount
    generalize t.add n = r at htakes hfold
    cases htakes with
    | lost hlost =>
      rw [if_neg (by simp [EnumMember.isCounted, hlost])] at hcount
      obtain ⟨values, variants, htexts, hnumbers, hfound⟩ := ih hcount hlow hnext hfold
      exact ⟨values, variants, htexts, hnumbers, .lost hlost hfound⟩
    | spaced => cases hfold
    | @text contents hdenotes =>
      rw [if_neg (by simp [EnumMember.isCounted, hdenotes.isText])] at hcount
      obtain ⟨values, variants, htexts, hnumbers, hfound⟩ :=
        ih (t := { t with texts := t.texts ++ [contents] }) hcount hlow hnext hfold
      exact ⟨contents :: values, variants, by simpa using htexts, hnumbers, .text hdenotes hfound⟩
    | @given i hnumber hi _ =>
      rw [if_pos (EnumMember.isCounted_of_number? hnumber), hnumber, Option.getD_some,
        Bool.and_eq_true, decide_eq_true_eq] at hcount
      obtain ⟨values, variants, htexts, hnumbers, hfound⟩ :=
        ih hcount.2 (show _ ≤ i + 1 by omega) (next_number hi hcount.1) hfold
      exact ⟨values, _ :: variants, htexts, by simpa [Tally.number] using hnumbers,
        .given hnumber hfound⟩
    | next hnone hlost =>
      rw [if_pos (EnumMember.isCounted_of_initializer hnone hlost), EnumMember.number?, hnone,
        Option.bind_none, Option.getD_none, Bool.and_eq_true, decide_eq_true_eq] at hcount
      rw [hnext] at hfold
      obtain ⟨values, variants, htexts, hnumbers, hfound⟩ :=
        ih hcount.2 (show _ ≤ nextValue before + 1 by omega) (next_number hlow hcount.1) hfold
      exact ⟨values, _ :: variants, htexts, by simpa [Tally.number] using hnumbers,
        .next hnone hlost hfound⟩

namespace Found

variable {before : Option Int} {ms : List EnumMember} {values : List String} {variants : List Variant}

theorem texts (h : Found before ms values []) :
    List.Forall₂ Denotes values (ms.filter (!·.isLost)) := by
  generalize hvariants : ([] : List Variant) = vs at h
  induction h with
  | nil => exact .nil
  | lost hlost _ ih => simpa [hlost] using ih hvariants
  | text hdenotes _ ih =>
    rw [List.filter_cons_of_pos (by simp [hdenotes.isLost])]
    exact .cons hdenotes (ih hvariants)
  | given => cases hvariants
  | next => cases hvariants

theorem numbers (h : Found before ms [] variants) :
    Counts before (ms.filter (!·.isLost)) variants := by
  generalize hvalues : ([] : List String) = values at h
  induction h with
  | nil => exact .nil
  | lost hlost _ ih => simpa [hlost] using ih hvalues
  | text => cases hvalues
  | given hnumber _ ih =>
    rw [List.filter_cons_of_pos (by simp [EnumMember.isLost_of_number? hnumber])]
    exact .given hnumber (ih hvalues)
  | next hnone hlost _ ih =>
    rw [List.filter_cons_of_pos (by simp [hlost])]
    exact .next hnone (ih hvalues)

theorem values_eq_nil_iff (h : Found before ms values variants) :
    values = [] ↔ ∀ m ∈ ms, m.isText = false := by
  induction h with
  | nil => simp
  | lost hlost _ ih => simp [ih, EnumMember.isText_of_isLost hlost]
  | text hdenotes => simp [hdenotes.isText]
  | given hnumber _ ih => simp [ih, EnumMember.isText_of_number? hnumber]
  | next hnone _ _ ih => simp [ih, EnumMember.isText, EnumMember.text?, hnone]

theorem variants_eq_nil_iff (h : Found before ms values variants) :
    variants = [] ↔ ∀ m ∈ ms, m.isCounted = false := by
  induction h with
  | nil => simp
  | lost hlost _ ih => simp [ih, EnumMember.isCounted, hlost]
  | text hdenotes _ ih => simp [ih, EnumMember.isCounted, hdenotes.isText]
  | given hnumber => simp [EnumMember.isCounted_of_number? hnumber]
  | next hnone hlost => simp [EnumMember.isCounted_of_initializer hnone hlost]

end Found

theorem Counts.length_eq {before : Option Int} {ms : List EnumMember} {variants : List Variant}
    (h : Counts before ms variants) : variants.length = ms.length := by
  induction h with
  | nil => rfl
  | given _ _ ih => simp [ih]
  | next _ _ ih => simp [ih]

def Enumeration.size : Enumeration → Nat
  | .texts values => values.length
  | .numbers variants => variants.length

theorem Enumeration.Lists.size_eq {e : Enumeration} {ms : List EnumMember} (h : e.Lists ms) :
    e.size = ms.length := by
  cases e with
  | texts values => exact List.Forall₂.length_eq h
  | numbers variants => exact Counts.length_eq h

/-- Members that an enumeration cannot have: a spaced number, or texts beside numbers. -/
def Refused (ms : List EnumMember) : Prop :=
  (∃ m ∈ ms, m.isSpaced = true) ∨ (∃ m ∈ ms, m.isText = true) ∧ ∃ m ∈ ms, m.isCounted = true

/-- The shape of an enumeration has the value of every member that is not lost. -/
theorem Shape.ofEnumMembers_spells {ns : List Node} {ms : List EnumMember}
    (h : List.Forall₂ SpellsMember ns ms) (hcount : isCountable none ms = true) :
    (Refused ms ∧ ∃ what, Shape.ofEnumMembers ns = .alias (.unsupported what)) ∨
      ¬ Refused ms ∧ ∃ e, Shape.ofEnumMembers ns = .enumeration e ∧
        e.Lists (ms.filter (!·.isLost)) := by
  have hspaced := Tally.foldlM_add_eq_none_iff h ⟨[], [], 0⟩
  unfold Shape.ofEnumMembers
  cases hfold : ns.foldlM Tally.add ⟨[], [], 0⟩ with
  | none => exact .inl ⟨.inl (hspaced.1 hfold), _, rfl⟩
  | some t =>
    have hplain : ¬ ∃ m ∈ ms, m.isSpaced = true := by simp [← hspaced, hfold]
    have hnext : (⟨[], [], 0⟩ : Tally).next = nextValue none := rfl
    obtain ⟨values, variants, htexts, hnumbers, hfound⟩ := Tally.foldlM_add_eq_some h hcount (by decide) hnext hfold
    obtain ⟨texts, numbers, next⟩ := t
    simp only [List.nil_append] at htexts hnumbers
    subst htexts hnumbers
    have hvalues := hfound.values_eq_nil_iff
    have hvariants := hfound.variants_eq_nil_iff
    have hrefused : Refused ms ↔ texts ≠ [] ∧ numbers ≠ [] := by
      simp only [Refused, hplain, false_or, ne_eq, hvalues, hvariants, not_forall, exists_prop,
        Bool.not_eq_false]
    cases texts with
    | nil => exact .inr ⟨by simp [hrefused], .numbers numbers, rfl, hfound.numbers⟩
    | cons text texts =>
      cases numbers with
      | nil => exact .inr ⟨by simp [hrefused], .texts (text :: texts), rfl, hfound.texts⟩
      | cons number numbers => exact .inl ⟨by simp [hrefused], _, rfl⟩

theorem Shape.ofEnumMembers_filter (ns : List Node) :
    Shape.ofEnumMembers (ns.filter (!·.isComment)) = Shape.ofEnumMembers ns := by
  have hfold : ∀ t : Tally, (ns.filter (!·.isComment)).foldlM Tally.add t = ns.foldlM Tally.add t := by
    induction ns with
    | nil => exact fun _ => rfl
    | cons n ns ih =>
      intro t
      cases hcomment : n.isComment with
      | true =>
        have hkind : n.kind = "comment" := of_decide_eq_true hcomment
        have hadd : t.add n = some t := by
          rw [Tally.add, hkind]
          rfl
        rw [List.filter_cons_of_neg (by simp [hcomment]), ih, List.foldlM_cons, hadd]
        rfl
      | false =>
        rw [List.filter_cons_of_pos (by simp [hcomment]), List.foldlM_cons, List.foldlM_cons]
        cases t.add n with
        | none => rfl
        | some t' => exact ih t'
  rw [Shape.ofEnumMembers, Shape.ofEnumMembers, hfold]

/-- An enumeration whose numbers can be counted is refused, or it has the value of every member except names
in quotes that are given none. So no member is lost exactly if there is no such name. -/
theorem Definition.ofNode?_enumeration {n name body : Node} {ms : List EnumMember}
    (hkind : n.kind = "enum_declaration") (hname : n.field? "name" = some name)
    (hbody : n.field? "body" = some body)
    (hmembers : List.Forall₂ SpellsMember (body.namedChildren.filter (!·.isComment)) ms)
    (hcount : isCountable none ms = true) :
    (Refused ms ∧ ∃ what, Definition.ofNode? n = some (.unsupported name.text what)) ∨
      ¬ Refused ms ∧ ∃ e, Definition.ofNode? n = some ⟨name.text, none, .enumeration e⟩ ∧
        e.Lists (ms.filter (!·.isLost)) ∧ (e.Lists ms ↔ ∀ m ∈ ms, m.isLost = false) := by
  have hshape : Shape.ofNode? n = some (Shape.ofEnumMembers body.namedChildren) := by
    rw [Shape.ofNode?, hkind, hbody]
    rfl
  have hdefinition : Definition.ofNode? n =
      some ⟨name.text, none, Shape.ofEnumMembers body.namedChildren⟩ := by
    rw [Definition.ofNode?, hshape, hname]
    rfl
  rw [hdefinition, ← Shape.ofEnumMembers_filter]
  rcases Shape.ofEnumMembers_spells hmembers hcount with ⟨hrefused, what, hunsupported⟩ |
    ⟨hrefused, e, henumeration, hlists⟩
  · exact .inl ⟨hrefused, what, by rw [hunsupported]; rfl⟩
  · refine .inr ⟨hrefused, e, by rw [henumeration], hlists, fun hall m hm => ?_, fun hnone => ?_⟩
    · -- The enumeration has as many values as there are members, so none has been left out.
      have hlength : (ms.filter (!·.isLost)).length = ms.length :=
        hlists.size_eq.symm.trans hall.size_eq
      have hkept := List.length_filter_eq_length_iff.1 hlength m hm
      simpa using hkept
    · rw [List.filter_eq_self.2 fun m hm => by simp [hnone m hm]] at hlists
      exact hlists

/-- An enumeration whose first member is a name in quotes. -/
def levelSource : List Char := "enum Level \x7b \"Not set\", Low, High = 10 \x7d".toList

def levelTen : Node := Run.nodeAt 1 36 "number" ["value"] "10" []

def levelNodes : List Node := [
  Run.stringAt 1 13 ["name"] "Not set",
  Run.nodeAt 1 24 "property_identifier" ["name"] "Low" [],
  Run.spanning levelSource "enum_assignment" [] [
    Run.nodeAt 1 29 "property_identifier" ["name"] "High" [], Run.tokenAt 1 34 [] "=", levelTen]]

def levelBody : Node :=
  Run.spanning levelSource "enum_body" ["body"]
    (Run.tokenAt 1 11 [] "\x7b" :: levelNodes.intersperse (Run.tokenAt 1 22 [] ",") ++
      [Run.tokenAt 1 39 [] "\x7d"])

def level : Node :=
  Run.spanning levelSource "enum_declaration" [] [
    Run.tokenAt 1 0 [] "enum",
    Run.nodeAt 1 5 "identifier" ["name"] "Level" [],
    levelBody]

def levelMembers : List EnumMember := [⟨"\"Not set\"", none⟩, ⟨"Low", none⟩, ⟨"High", some "10"⟩]

theorem ofNode?_enumeration_level :
    List.Forall₂ SpellsMember (levelBody.namedChildren.filter (!·.isComment)) levelMembers ∧
      isCountable none levelMembers = true ∧
      ∃ e, Definition.ofNode? level = some ⟨"Level", none, .enumeration e⟩ ∧
        e.Lists levelMembers.tail ∧ ¬ e.Lists levelMembers := by
  have hnodes : levelBody.namedChildren.filter (!·.isComment) = levelNodes := rfl
  have hten : SpellsValue levelTen := .number (.inl rfl) (i := 10) (by decide) (by decide) (by decide)
  have hspells : List.Forall₂ SpellsMember levelNodes levelMembers := by
    refine .cons (.bare ⟨?_, ?_⟩) (.cons (.bare ⟨?_, ?_⟩) (.cons
      (.assigned rfl rfl ⟨?_, ?_⟩ rfl hten) .nil))
    all_goals decide
  have hcount : isCountable none levelMembers = true := by decide
  have hrefused : ¬ Refused levelMembers := by
    have hspaced : ¬ ∃ m ∈ levelMembers, m.isSpaced = true := by decide
    have htext : ¬ ∃ m ∈ levelMembers, m.isText = true := by decide
    exact fun h => h.elim hspaced fun h => htext h.1
  rcases Definition.ofNode?_enumeration (n := level) rfl rfl rfl (hnodes ▸ hspells) hcount with
    ⟨h, -⟩ | ⟨-, e, he, hlists, hall⟩
  · exact absurd h hrefused
  · refine ⟨hnodes ▸ hspells, hcount, e, he, hlists, fun h => ?_⟩
    exact absurd (hall.1 h ⟨"\"Not set\"", none⟩ (by decide)) (by decide)

end Schema

end SchemaGen
