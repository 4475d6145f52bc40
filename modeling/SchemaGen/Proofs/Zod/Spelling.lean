import SchemaGen.Proofs.Zod.Library
import SchemaGen.Proofs.Zod.PropertyKey

namespace SchemaGen.Zod

open Schema TypeScript

/-- The text that contents stand for between double quotes. -/
def textUnits (contents : String) : List Nat :=
  (stringUnits? '"' (contents.toList ++ ['"'])).getD []

def keyUnits (name : String) : List Nat := (contentUnits? name.toList).getD []

def isTextContents (contents : String) : Bool :=
  (stringUnits? '"' (contents.toList ++ ['"'])).isSome

/-- A name that can be the key of a property as it is written: no double quote in it is escaped, and it is not
that of the prototype. -/
def isKeyName (name : String) : Bool :=
  (contentUnits? name.toList).isSome && !escapesQuote name.toList && keyUnits name ≠ prototypeKey

/-- An identifier that can be bound beside `z`. -/
def isBinding (name : String) : Bool :=
  isWordOf (name.toList.map Char.toNat) && !reservedWords.contains name && name ≠ "z"

variable {ν : Type} {name contents : String}

theorem stringUnits?_textUnits (h : isTextContents contents = true) :
    stringUnits? '"' (contents.toList ++ ['"']) = some (textUnits contents) := by
  obtain ⟨us, hus⟩ := Option.isSome_iff_exists.1 h
  rw [textUnits, hus, Option.getD_some]

theorem isKeyName_iff : isKeyName name = true ↔ contentUnits? name.toList = some (keyUnits name) ∧
    escapesQuote name.toList = false ∧ keyUnits name ≠ prototypeKey := by
  have hunits : (contentUnits? name.toList).isSome ↔ contentUnits? name.toList = some (keyUnits name) := by
    rw [Option.isSome_iff_exists, keyUnits]
    constructor
    · rintro ⟨us, hus⟩
      rw [hus, Option.getD_some]
    · exact fun h => ⟨_, h⟩
  rw [isKeyName, Bool.and_eq_true, Bool.and_eq_true, hunits, Bool.not_eq_true', decide_eq_true_iff, and_assoc]

/-! ### The expression for a validator -/

section Expressions

variable (identifier : String → String)

def libraryCall (method : String) (args : List Expression) : Expression :=
  .call (.member (.word "z") method) args

def Literal.expression : Literal → Expression
  | .text contents => .text (textUnits contents)
  | .numeral source => .numeral source
  | .truth value => .word (if value then "true" else "false")

mutual

/-- The expression that is written for a validator without refinements. -/
def Validator.expression : Validator → Expression
  | .base b => libraryCall b.name []
  | .literal l => libraryCall "literal" [l.expression]
  | .choice values => libraryCall "enum" [.list (values.map fun s => .text (textUnits s))]
  | .array item => libraryCall "array" [item.expression]
  | .tuple items => libraryCall "tuple" [.list (expressions items)]
  | .record key value =>
    match key with
    | some k => libraryCall "record" [k.expression, value.expression]
    | none => libraryCall "record" [value.expression]
  | .object properties rest =>
    match rest with
    | some w =>
      .call (.member (libraryCall "object" [.object (propertyExpressions properties)]) "catchall")
        [w.expression]
    | none => libraryCall "object" [.object (propertyExpressions properties)]
  | .union members => libraryCall "union" [.list (expressions members)]
  | .both left right => .call (.member left.expression "and") [right.expression]
  | .ref type => .word (identifier type)
  | .refined inner _ | .withDefault inner _ => inner.expression
  | .optional inner => .call (.member inner.expression "optional") []
  | .nullable inner => .call (.member inner.expression "nullable") []

def expressions : List Validator → List Expression
  | [] => []
  | v :: vs => v.expression :: expressions vs

def propertyExpressions : List (Property Validator) → List (Entry Expression)
  | [] => []
  | p :: ps => ⟨keyUnits p.name, p.validator.expression⟩ :: propertyExpressions ps

end

mutual

/-- What is written in a validator can be read: its literals, its keys and its identifiers. There are no
refinements. -/
def Validator.Readable : Validator → Prop
  | .base _ => True
  | .literal l =>
    match l with
    | .text contents => isTextContents contents
    | .numeral source => isSignedNumeral source.toList
    | .truth _ => True
  | .choice values => ∀ s ∈ values, isTextContents s
  | .array item => item.Readable
  | .tuple items | .union items => ReadableAll items
  | .record key value =>
    match key with
    | some k => k.Readable ∧ value.Readable
    | none => value.Readable
  | .object properties rest =>
    match rest with
    | some w => ReadableProperties properties ∧ w.Readable
    | none => ReadableProperties properties
  | .both left right => left.Readable ∧ right.Readable
  | .ref type => isBinding (identifier type)
  | .refined _ _ | .withDefault _ _ => False
  | .optional inner | .nullable inner => inner.Readable

def ReadableAll : List Validator → Prop
  | [] => True
  | v :: vs => v.Readable ∧ ReadableAll vs

def ReadableProperties : List (Property Validator) → Prop
  | [] => True
  | p :: ps => isKeyName p.name ∧ p.validator.Readable ∧ ReadableProperties ps

end

end Expressions

/-! ### Reading what is written -/

section Reading

open Progress

variable {fs : List Frame} {e f : Expression} {es : List Expression} {rest : List Char}
  {m opening a b : String}

def Reads (text : String) (e : Expression) : Prop :=
  ∀ (fs : List Frame) (rest : List Char), Stops rest →
    (Progress.mk fs none).read (text.toList ++ rest) = (Progress.mk fs (some e)).read rest

/-- A text is read as a property inside an object literal, and the comma behind it. -/
def ReadsEntry (text : String) (entry : Entry Expression) : Prop :=
  ∀ (fs : List Frame) (before : List (Entry Expression)) (rest : List Char),
    (Progress.mk (.entries before none :: fs) none).read (text.toList ++ rest) =
      (Progress.mk (.entries (before ++ [entry]) none :: fs) none).read rest

theorem expression?_of_reads {text : String} (h : Reads text e) : expression? text.toList = some e := by
  have hread := h [] [] (by simp [Stops])
  rw [List.append_nil] at hread
  rw [expression?, hread, Progress.read]
  rfl

theorem reads_word (h : isWordOf (name.toList.map Char.toNat) = true) : Reads name (.word name) := by
  intro fs rest hrest
  rw [read_word h hrest, String.ofList_toList]

theorem reads_quoted (h : isTextContents contents = true) :
    Reads (quoted contents) (.text (textUnits contents)) := by
  intro fs rest _
  have hchars : (quoted contents).toList ++ rest = '"' :: (contents.toList ++ '"' :: rest) := by
    simp [quoted]
  rw [hchars, read_text (stringUnits?_textUnits h)]

theorem read_opening (h : isWordOf (m.toList.map Char.toNat) = true)
    (hopening : opening.toList = 'z' :: '.' :: (m.toList ++ ['('])) :
    (Progress.mk fs none).read (opening.toList ++ rest) =
      (Progress.mk (.arguments (.member (.word "z") m) [] :: fs) none).read rest := by
  have hz : isWordOf (['z'].map Char.toNat) = true := by decide
  have hrest : opening.toList ++ rest = ['z'] ++ '.' :: (m.toList ++ '(' :: rest) := by
    rw [hopening, List.cons_append, List.cons_append, List.append_assoc]
    rfl
  rw [hrest, read_word hz (stops_cons (by decide)), read_member h (stops_cons (by decide)),
    read_mark (by decide) rfl, String.ofList_toList]

theorem read_closing :
    (Progress.mk (.arguments f es :: fs) (some e)).read (')' :: rest) =
      (Progress.mk fs (some (.call f (es ++ [e])))).read rest := read_mark (by decide) rfl

theorem reads_base (h : isWordOf (m.toList.map Char.toNat) = true) :
    Reads ("z." ++ m ++ "()") (libraryCall m []) := by
  intro fs rest _
  have hchars : ("z." ++ m ++ "()").toList ++ rest = ("z." ++ m ++ "(").toList ++ ')' :: rest := by
    simp
  rw [hchars, read_opening h (by simp), read_mark (by decide) rfl]
  rfl

theorem reads_library (h : isWordOf (m.toList.map Char.toNat) = true)
    (hopening : opening.toList = 'z' :: '.' :: (m.toList ++ ['('])) (ha : Reads a e) :
    Reads (opening ++ a ++ ")") (libraryCall m [e]) := by
  intro fs rest _
  have hchars : (opening ++ a ++ ")").toList ++ rest = opening.toList ++ (a.toList ++ ')' :: rest) := by
    simp
  rw [hchars, read_opening h hopening, ha _ _ (stops_cons (by decide))]
  exact read_closing

theorem reads_numeral {source : String} (h : isSignedNumeral source.toList = true) :
    Reads ("z.literal(" ++ source ++ ")") (libraryCall "literal" [.numeral source]) := by
  intro fs rest _
  have hchars : ("z.literal(" ++ source ++ ")").toList ++ rest =
      "z.literal(".toList ++ (source.toList ++ ')' :: rest) := by simp
  have hstops : ∀ c ∈ (')' :: rest).head?, isNumeralPart c = false := by
    intro c hc
    obtain rfl := Option.some.inj hc
    decide
  rw [hchars, read_opening (m := "literal") (by decide) rfl, read_numeral h hstops, String.ofList_toList]
  exact read_closing

theorem reads_keyedRecord (ha : Reads a e) (hb : Reads b f) :
    Reads ("z.record(" ++ a ++ ", " ++ b ++ ")") (libraryCall "record" [e, f]) := by
  intro fs rest _
  have hchars : ("z.record(" ++ a ++ ", " ++ b ++ ")").toList ++ rest =
      "z.record(".toList ++ (a.toList ++ ',' :: ' ' :: (b.toList ++ ')' :: rest)) := by simp
  rw [hchars, read_opening (m := "record") (by decide) rfl, ha _ _ (stops_cons (by decide)),
    read_mark (by decide) rfl, read_gap (by decide), hb _ _ (stops_cons (by decide))]
  exact read_closing

theorem read_items {texts : List String} (h : List.Forall₂ Reads texts es) (before : List Expression) :
    (Progress.mk (.items before :: fs) none).read ((", ".intercalate texts).toList ++ ']' :: rest) =
      (Progress.mk fs (some (.list (before ++ es)))).read rest := by
  induction h generalizing before with
  | nil => exact read_mark (by decide) rfl
  | @cons text e texts es htext htexts ih =>
    cases htexts with
    | nil =>
      rw [String.intercalate_singleton, htext _ _ (stops_cons (by decide)), read_mark (by decide) rfl]
      rfl
    | @cons text' e' texts es htext' htexts =>
      have hchars : (", ".intercalate (text :: text' :: texts)).toList ++ ']' :: rest =
          text.toList ++ ',' :: ' ' :: ((", ".intercalate (text' :: texts)).toList ++ ']' :: rest) := by
        simp [String.intercalate_cons_cons]
      have hcomma : (Progress.mk (.items before :: fs) (some e)).step (.mark ',') =
          some ⟨.items (before ++ [e]) :: fs, none⟩ := rfl
      rw [hchars, htext _ _ (stops_cons (by decide)), read_mark (by decide) hcomma, read_gap (by decide),
        ih, List.append_assoc]
      rfl

theorem reads_items {texts : List String} (h : isWordOf (m.toList.map Char.toNat) = true)
    (hopening : opening.toList = 'z' :: '.' :: (m.toList ++ ['(', '['])) (ht : List.Forall₂ Reads texts es) :
    Reads (opening ++ ", ".intercalate texts ++ "])") (libraryCall m [.list es]) := by
  intro fs rest _
  have hcall : (String.ofList ('z' :: '.' :: (m.toList ++ ['(']))).toList =
      'z' :: '.' :: (m.toList ++ ['(']) := String.toList_ofList
  have hchars : (opening ++ ", ".intercalate texts ++ "])").toList ++ rest =
      (String.ofList ('z' :: '.' :: (m.toList ++ ['(']))).toList ++
        '[' :: ((", ".intercalate texts).toList ++ ']' :: ')' :: rest) := by
    rw [String.toList_append, String.toList_append, hopening, hcall]
    simp
  rw [hchars, read_opening h hcall, read_mark (by decide) rfl, read_items ht]
  exact read_closing

theorem reads_method (h : isWordOf (m.toList.map Char.toNat) = true)
    (hopening : opening.toList = '.' :: (m.toList ++ ['('])) (ha : Reads a e) (hb : Reads b f) :
    Reads (a ++ opening ++ b ++ ")") (.call (.member e m) [f]) := by
  intro fs rest _
  have hchars : (a ++ opening ++ b ++ ")").toList ++ rest =
      a.toList ++ '.' :: (m.toList ++ '(' :: (b.toList ++ ')' :: rest)) := by
    rw [String.toList_append, String.toList_append, String.toList_append, hopening]
    simp
  rw [hchars, ha _ _ (stops_cons (by decide)), read_member h (stops_cons (by decide)),
    read_mark (by decide) rfl, hb _ _ (stops_cons (by decide)), String.ofList_toList]
  exact read_closing

theorem reads_suffix (h : isWordOf (m.toList.map Char.toNat) = true)
    (hopening : opening.toList = '.' :: (m.toList ++ ['(', ')'])) (ha : Reads a e) :
    Reads (a ++ opening) (.call (.member e m) []) := by
  intro fs rest _
  have hchars : (a ++ opening).toList ++ rest = a.toList ++ '.' :: (m.toList ++ '(' :: ')' :: rest) := by
    rw [String.toList_append, hopening]
    simp
  rw [hchars, ha _ _ (stops_cons (by decide)), read_member h (stops_cons (by decide)),
    read_mark (by decide) rfl, read_mark (by decide) rfl, String.ofList_toList]
  rfl

theorem read_propertyKey {before : List (Entry Expression)} {us : List Nat}
    (hunits : contentUnits? name.toList = some us) (hescapes : escapesQuote name.toList = false) :
    (Progress.mk (.entries before none :: fs) none).read ((propertyKey name).toList ++ ':' :: rest) =
      (Progress.mk (.entries before (some us) :: fs) none).read rest := by
  cases hplain : isPlainName name.toList with
  | true =>
    have hparts := isIdentifierPart_of_isPlainName hplain
    have hwritten : propertyKey name = name := if_pos hplain
    have hordinary : ∀ c ∈ name.toList, isOrdinary '\\' c = true := fun c hc =>
      isOrdinary_iff.2 ⟨fun hescape => backslash_notMem hparts (hescape ▸ hc),
        (isOrdinary_iff.1 (isOrdinary_of_isIdentifierPart (by decide : isQuote '"' = true) (hparts c hc))).2⟩
    rw [contentUnits?_of_ordinary hordinary] at hunits
    rw [hwritten, read_word (isWordOf_of_isPlainName hplain) (stops_cons (by decide))]
    refine read_mark (by decide) ?_
    rw [step]
    simp only [Expression.key?, String.toList_ofList, Option.map_some, Option.some.inj hunits]
  | false =>
    have hwritten : propertyKey name = quoted (.ofList (escapeQuotes name.toList)) :=
      if_neg (by rw [hplain]; decide)
    have hchars : (propertyKey name).toList ++ ':' :: rest =
        '"' :: (escapeQuotes name.toList ++ '"' :: ':' :: rest) := by
      rw [hwritten]
      simp [quoted]
    rw [hchars, read_text (stringUnits?_of_contentUnits? hunits hescapes), read_mark (by decide) rfl]

theorem margin_gaps (indent : Nat) : ∀ c ∈ (Doc.margin indent).toList, isGap c = true := by
  intro c hc
  rw [Doc.margin, String.toList_ofList] at hc
  obtain rfl := List.eq_of_mem_replicate hc
  decide

theorem readsEntry_property (indent : Nat) {us : List Nat} (hunits : contentUnits? name.toList = some us)
    (hescapes : escapesQuote name.toList = false) (ha : Reads a e) :
    ReadsEntry (Doc.margin indent ++ propertyKey name ++ ": " ++ a ++ ",\n") ⟨us, e⟩ := by
  intro fs before rest
  have hchars : (Doc.margin indent ++ propertyKey name ++ ": " ++ a ++ ",\n").toList ++ rest =
      (Doc.margin indent).toList ++
        ((propertyKey name).toList ++ ':' :: ' ' :: (a.toList ++ ',' :: '\n' :: rest)) := by simp
  rw [hchars, read_gaps (margin_gaps indent), read_propertyKey hunits hescapes, read_gap (by decide),
    ha _ _ (stops_cons (by decide)), read_mark (by decide) rfl, read_gap (by decide)]

theorem read_entries {texts : List String} {entries : List (Entry Expression)}
    (h : List.Forall₂ ReadsEntry texts entries) (before : List (Entry Expression)) :
    (Progress.mk (.entries before none :: fs) none).read ((String.join texts).toList ++ rest) =
      (Progress.mk (.entries (before ++ entries) none :: fs) none).read rest := by
  induction h generalizing before with
  | nil =>
    rw [List.append_nil]
    rfl
  | @cons text entry texts entries htext _ ih =>
    rw [String.join_cons, String.toList_append, List.append_assoc, htext, ih, List.append_assoc]
    rfl

variable {identifier : String → String}

theorem renderProperties_cons (indent : Nat) (p : Property Validator) (ps : List (Property Validator)) :
    renderProperties ⟨identifier, false⟩ indent (p :: ps) =
      (Doc.margin indent ++ propertyKey p.name ++ ": " ++ p.validator.render ⟨identifier, false⟩ indent ++
        ",\n") :: renderProperties ⟨identifier, false⟩ indent ps := by
  have hcomment : Style.comment ⟨identifier, false⟩ p.docs indent = "" := by cases p.docs <;> rfl
  rw [renderProperties, hcomment, String.empty_append]

theorem reads_object (indent : Nat) (ps : List (Property Validator))
    (h : List.Forall₂ ReadsEntry (renderProperties ⟨identifier, false⟩ (indent + 1) ps)
      (propertyExpressions identifier ps)) :
    Reads (Validator.render ⟨identifier, false⟩ indent (.object ps none))
      (libraryCall "object" [.object (propertyExpressions identifier ps)]) := by
  intro fs rest _
  cases ps with
  | nil =>
    have hchars : (Validator.render ⟨identifier, false⟩ indent (.object [] none)).toList ++ rest =
        "z.object(".toList ++ '\x7b' :: '\x7d' :: ')' :: rest := by simp [Validator.render]
    rw [hchars, read_opening (m := "object") (by decide) rfl, read_mark (by decide) rfl,
      read_mark (by decide) rfl]
    exact read_closing
  | cons p ps =>
    have hchars : (Validator.render ⟨identifier, false⟩ indent (.object (p :: ps) none)).toList ++ rest =
        "z.object(".toList ++ '\x7b' :: '\n' ::
          ((String.join (renderProperties ⟨identifier, false⟩ (indent + 1) (p :: ps))).toList ++
            ((Doc.margin indent).toList ++ '\x7d' :: ')' :: rest)) := by
      simp [Validator.render]
    rw [hchars, read_opening (m := "object") (by decide) rfl, read_mark (by decide) rfl,
      read_gap (by decide), read_entries h, read_gaps (margin_gaps indent), read_mark (by decide) rfl]
    exact read_closing

mutual

theorem reads_render (indent : Nat) : ∀ v : Validator, v.Readable identifier →
    Reads (v.render ⟨identifier, false⟩ indent) (v.expression identifier)
  | .base b, _ => reads_base (by cases b <;> decide)
  | .literal (.text contents), h => reads_library (by decide) rfl (reads_quoted h)
  | .literal (.numeral source), h => reads_numeral h
  | .literal (.truth true), _ => reads_library (m := "literal") (by decide) rfl (reads_word (by decide))
  | .literal (.truth false), _ => reads_library (m := "literal") (by decide) rfl (reads_word (by decide))
  | .choice values, h => by
    refine reads_items (by decide) rfl ?_
    rw [List.forall₂_map_left_iff, List.forall₂_map_right_iff, List.forall₂_same]
    exact fun s hs => reads_quoted (h s hs)
  | .array item, h => reads_library (by decide) rfl (reads_render indent item h)
  | .tuple items, h => reads_items (by decide) rfl (reads_renderAll indent items h)
  | .union members, h => reads_items (by decide) rfl (reads_renderAll indent members h)
  | .record none value, h => reads_library (by decide) rfl (reads_render indent value h)
  | .record (some key) value, h =>
    reads_keyedRecord (reads_render indent key h.1) (reads_render indent value h.2)
  | .object properties none, h =>
    reads_object indent properties (reads_renderProperties (indent + 1) properties h)
  | .object properties (some rest), h => by
    have hobject := reads_object indent properties (reads_renderProperties (indent + 1) properties h.1)
    rw [render_object_some]
    exact reads_method (by decide) rfl hobject (reads_render indent rest h.2)
  | .both left right, h =>
    reads_method (by decide) rfl (reads_render indent left h.1) (reads_render indent right h.2)
  | .ref type, h => by
    have hword : isBinding (identifier type) = true := h
    rw [isBinding, Bool.and_eq_true, Bool.and_eq_true] at hword
    exact reads_word hword.1.1
  | .refined _ _, h => h.elim
  | .withDefault _ _, h => h.elim
  | .optional inner, h => reads_suffix (by decide) rfl (reads_render indent inner h)
  | .nullable inner, h => reads_suffix (by decide) rfl (reads_render indent inner h)

theorem reads_renderAll (indent : Nat) : ∀ vs : List Validator, ReadableAll identifier vs →
    List.Forall₂ Reads (renderAll ⟨identifier, false⟩ indent vs) (expressions identifier vs)
  | [], _ => .nil
  | v :: vs, h => .cons (reads_render indent v h.1) (reads_renderAll indent vs h.2)

theorem reads_renderProperties (indent : Nat) : ∀ ps : List (Property Validator),
    ReadableProperties identifier ps →
      List.Forall₂ ReadsEntry (renderProperties ⟨identifier, false⟩ indent ps)
        (propertyExpressions identifier ps)
  | [], _ => .nil
  | p :: ps, h => by
    obtain ⟨hunits, hescapes, -⟩ := isKeyName_iff.1 h.1
    have hp := readsEntry_property indent hunits hescapes (reads_render indent p.validator h.2.1)
    rw [renderProperties_cons]
    exact .cons hp (reads_renderProperties indent ps h.2.2)

end

end Reading

/-! ### What is read -/

section Standing

/-- A reading of types as JavaScript reads what is written for them. -/
def javaScript (numeral : String → Value ν) : Reading ν := ⟨textUnits, keyUnits, numeral⟩

variable (numeral : String → Value ν) (values : String → Value ν → Prop)

/-- An expression is a validator that accepts a set of values. -/
def Means (e : Expression) (p : Value ν → Prop) : Prop :=
  ∃ x, thing? numeral values e = some x ∧ x.accepts? = some p

variable {numeral values} {e f : Expression} {es : List Expression} {m : String}
  {p q : Value ν → Prop} {ps : List (Value ν → Prop)} {x : Thing ν} {xs : List (Thing ν)}

theorem thing?_library (h : things? numeral values es = some xs) :
    thing? numeral values (libraryCall m es) = Thing.make? m xs := by
  rw [libraryCall, thing?, h]
  rfl

theorem thing?_method (he : thing? numeral values e = some x) (hes : things? numeral values es = some xs) :
    thing? numeral values (.call (.member e m) es) = x.call? m xs := by
  rw [thing?, he, hes]
  rfl

theorem call?_of_accepts? (h : x.accepts? = some p) (hm : m ≠ "catchall") :
    x.call? m xs = Thing.change? p m xs := by
  unfold Thing.call?
  split
  · cases h
  · contradiction
  · rw [h, Option.bind_some]

theorem things?_singleton (h : thing? numeral values e = some x) :
    things? numeral values [e] = some [x] := by
  rw [things?, h]
  rfl

theorem things?_of_means (h : List.Forall₂ (Means numeral values) es ps) :
    ∃ xs, things? numeral values es = some xs ∧ xs.mapM Thing.accepts? = some ps := by
  induction h with
  | nil => exact ⟨[], rfl, rfl⟩
  | @cons e p es ps he _ ih =>
    obtain ⟨x, hx, hp⟩ := he
    obtain ⟨xs, hxs, hps⟩ := ih
    refine ⟨x :: xs, ?_, ?_⟩
    · rw [things?, hx, Option.bind_some, hxs, Option.map_some]
    · rw [List.mapM_cons, hp, hps]
      rfl

theorem means_array (h : Means numeral values e p) :
    Means numeral values (libraryCall "array" [e]) (arrayOf p) := by
  obtain ⟨x, hx, hp⟩ := h
  refine ⟨.validator (arrayOf p), ?_, rfl⟩
  rw [thing?_library (things?_singleton hx), Thing.make?, hp, Option.map_some]

theorem means_list (h : List.Forall₂ (Means numeral values) es ps) :
    Means numeral values (libraryCall "tuple" [.list es]) (tupleOf ps) ∧
      Means numeral values (libraryCall "union" [.list es]) (someOf ps) := by
  obtain ⟨xs, hxs, hps⟩ := things?_of_means h
  have hlist : thing? numeral values (.list es) = some (.list xs) := by
    rw [thing?, hxs, Option.map_some]
  refine ⟨⟨.validator (tupleOf ps), ?_, rfl⟩, ⟨.validator (someOf ps), ?_, rfl⟩⟩
  · rw [thing?_library (things?_singleton hlist), Thing.make?, hps, Option.map_some]
  · rw [thing?_library (things?_singleton hlist), Thing.make?, hps, Option.map_some]

theorem means_record (h : Means numeral values e p) :
    Means numeral values (libraryCall "record" [e]) (recordOf (fun v => ∃ s, v = .text s) p) := by
  obtain ⟨x, hx, hp⟩ := h
  refine ⟨.validator _, ?_, rfl⟩
  rw [thing?_library (things?_singleton hx), Thing.make?, hp, Option.map_some]

theorem means_keyedRecord (he : Means numeral values e p) (hf : Means numeral values f q) :
    Means numeral values (libraryCall "record" [e, f]) (recordOf p q) := by
  obtain ⟨x, hx, hp⟩ := he
  obtain ⟨y, hy, hq⟩ := hf
  have hxy : things? numeral values [e, f] = some [x, y] := by
    rw [things?, hx, things?_singleton hy]
    rfl
  refine ⟨.validator _, ?_, rfl⟩
  rw [thing?_library hxy, Thing.make?, hp, hq, Option.bind_some, Option.map_some]

theorem means_and (he : Means numeral values e p) (hf : Means numeral values f q) :
    Means numeral values (.call (.member e "and") [f]) fun v => p v ∧ q v := by
  obtain ⟨x, hx, hp⟩ := he
  obtain ⟨y, hy, hq⟩ := hf
  refine ⟨.validator _, ?_, rfl⟩
  rw [thing?_method hx (things?_singleton hy), call?_of_accepts? hp (by decide), Thing.change?, hq,
    Option.map_some]

theorem means_suffix (he : Means numeral values e p) :
    Means numeral values (.call (.member e "optional") []) (fun v => p v ∨ v = .undefined) ∧
      Means numeral values (.call (.member e "nullable") []) fun v => p v ∨ v = .null := by
  obtain ⟨x, hx, hp⟩ := he
  refine ⟨⟨.validator _, ?_, rfl⟩, ⟨.validator _, ?_, rfl⟩⟩
  · rw [thing?_method hx rfl, call?_of_accepts? hp (by decide), Thing.change?]
  · rw [thing?_method hx rfl, call?_of_accepts? hp (by decide), Thing.change?]

theorem entryThings?_of_means {entries : List (Entry Expression)}
    (h : List.Forall₂ (fun e p => Means numeral values e.value p) entries ps) :
    ∃ es, entryThings? numeral values entries = some es ∧ es.map (·.key) = entries.map (·.key) ∧
      es.mapM (fun e : Entry (Thing ν) => e.value.accepts?.map (e.key, ·)) =
        some ((entries.map (·.key)).zip ps) := by
  induction h with
  | nil => exact ⟨[], rfl, rfl, rfl⟩
  | @cons e p entries ps he _ ih =>
    obtain ⟨x, hx, hp⟩ := he
    obtain ⟨es, hes, hsame, hps⟩ := ih
    refine ⟨⟨e.key, x⟩ :: es, ?_, ?_, ?_⟩
    · rw [entryThings?, hx, Option.bind_some, hes, Option.map_some]
    · rw [List.map_cons, List.map_cons, hsame]
    · rw [List.mapM_cons, hp, hps]
      rfl

/-- The properties of an object literal are those that are written if none of them is the prototype. -/
theorem thing?_object {entries : List (Entry Expression)} (hkeys : ∀ e ∈ entries, e.key ≠ prototypeKey)
    (h : List.Forall₂ (fun e p => Means numeral values e.value p) entries ps) :
    thing? numeral values (libraryCall "object" [.object entries]) =
      some (.shape ((entries.map (·.key)).zip ps)) := by
  obtain ⟨es, hes, hsame, hps⟩ := entryThings?_of_means h
  have hown : es.filter (·.key ≠ prototypeKey) = es := by
    rw [List.filter_eq_self]
    intro e he
    have hkey : e.key ∈ entries.map (·.key) := hsame ▸ List.mem_map_of_mem he
    obtain ⟨d, hd, heq⟩ := List.mem_map.1 hkey
    rw [← heq]
    exact decide_eq_true (hkeys d hd)
  have hobject : thing? numeral values (.object entries) = some (.literal es) := by
    rw [thing?, hes, Option.map_some, hown]
  rw [thing?_library (things?_singleton hobject), Thing.make?, hps, Option.map_some]

variable {meets : Refinement → Value ν → Prop} {env : String → Value ν → Prop} {identifier : String → String}

theorem wordThing?_of_isBinding {name : String} (h : isBinding name = true) :
    wordThing? values name = some (.validator (values name)) := by
  rw [isBinding, Bool.and_eq_true, Bool.and_eq_true, Bool.not_eq_true', decide_eq_true_iff] at h
  obtain ⟨⟨-, hreserved⟩, hz⟩ := h
  have hne {word : String} (hword : reservedWords.contains word = true) : name ≠ word := by
    rintro rfl
    exact absurd (hword.symm.trans hreserved) (by decide)
  rw [wordThing?, if_neg hz, if_neg (hne (by decide)), if_neg (hne (by decide)), hreserved,
    if_neg (by decide)]

theorem things?_texts (vs : List String) :
    ∃ xs, things? numeral values (vs.map fun s => .text (textUnits s)) = some xs ∧
      xs.mapM Thing.text? = some (vs.map textUnits) := by
  induction vs with
  | nil => exact ⟨[], rfl, rfl⟩
  | cons s vs ih =>
    obtain ⟨xs, hxs, htexts⟩ := ih
    refine ⟨.value (.text (textUnits s)) :: xs, ?_, ?_⟩
    · rw [List.map_cons, things?, hxs]
      rfl
    · rw [List.mapM_cons, htexts]
      rfl

theorem means_choice (vs : List String) : Means numeral values (Validator.expression identifier (.choice vs))
    (Validator.Accepts (javaScript numeral) meets env (.choice vs)) := by
  obtain ⟨xs, hxs, htexts⟩ := things?_texts vs
  have hlist : thing? numeral values (.list (vs.map fun s => .text (textUnits s))) = some (.list xs) := by
    rw [thing?, hxs, Option.map_some]
  refine ⟨.validator _, (thing?_library (things?_singleton hlist)).trans ?_, rfl⟩
  rw [Thing.make?, htexts, Option.map_some]
  simp [Validator.Accepts, javaScript]

theorem keys_propertyExpressions (identifier : String → String) (properties : List (Property Validator)) :
    (propertyExpressions identifier properties).map (·.key) = properties.map (keyUnits ·.name) := by
  induction properties with
  | nil => rfl
  | cons p properties ih => rw [propertyExpressions, List.map_cons, List.map_cons, ih]

theorem key_ne_prototypeKey {properties : List (Property Validator)}
    (h : ReadableProperties identifier properties) :
    ∀ key ∈ properties.map (keyUnits ·.name), key ≠ prototypeKey := by
  induction properties with
  | nil => simp
  | cons p properties ih =>
    rw [List.map_cons, List.forall_mem_cons]
    exact ⟨(isKeyName_iff.1 h.1).2.2, ih h.2.2⟩

theorem thing?_properties {properties : List (Property Validator)}
    (h : ReadableProperties identifier properties)
    (hp : List.Forall₂ (fun e p => Means numeral values e.value p)
      (propertyExpressions identifier properties) ps) :
    thing? numeral values (libraryCall "object" [.object (propertyExpressions identifier properties)]) =
      some (.shape ((properties.map (keyUnits ·.name)).zip ps)) := by
  have hkeys := keys_propertyExpressions identifier properties
  have hproper := key_ne_prototypeKey h
  rw [thing?_object (fun e he => hproper e.key (hkeys ▸ List.mem_map_of_mem he)) hp, hkeys]

mutual

/-- The expression of a validator means what the validator accepts, if the identifiers stand for the types. -/
theorem means_expression : ∀ v : Validator, v.Readable identifier →
    (∀ n ∈ v.names, values (identifier n) = env n) →
      Means numeral values (v.expression identifier) (v.Accepts (javaScript numeral) meets env)
  | .base b, _, _ => by cases b <;> exact ⟨.validator _, rfl, rfl⟩
  | .literal (.text contents), _, _ => ⟨.validator _, rfl, rfl⟩
  | .literal (.numeral source), _, _ => ⟨.validator _, rfl, rfl⟩
  | .literal (.truth true), _, _ => ⟨.validator _, rfl, rfl⟩
  | .literal (.truth false), _, _ => ⟨.validator _, rfl, rfl⟩
  | .choice vs, _, _ => means_choice vs
  | .array item, h, hn => means_array (means_expression item h hn)
  | .tuple items, h, hn => (means_list (means_expressions items h hn)).1
  | .union members, h, hn => (means_list (means_expressions members h hn)).2
  | .record none value, h, hn => means_record (means_expression value h hn)
  | .record (some key) value, h, hn => by
    simp only [Validator.names, List.mem_append] at hn
    have hk := means_expression key h.1 fun n hmem => hn n (.inr hmem)
    have hv := means_expression value h.2 fun n hmem => hn n (.inl hmem)
    exact means_keyedRecord hk hv
  | .object properties none, h, hn =>
    ⟨_, thing?_properties h (means_propertyExpressions properties h hn), rfl⟩
  | .object properties (some rest), h, hn => by
    simp only [Validator.names, List.mem_append] at hn
    have hp := means_propertyExpressions properties h.1 fun n hmem => hn n (.inl hmem)
    obtain ⟨x, hx, hrest⟩ := means_expression rest h.2 fun n hmem => hn n (.inr hmem)
    refine ⟨.validator _, ?_, rfl⟩
    rw [Validator.expression, thing?_method (thing?_properties h.1 hp) (things?_singleton hx), Thing.call?,
      hrest, Option.map_some]
    rfl
  | .both left right, h, hn => by
    simp only [Validator.names, List.mem_append] at hn
    have hl := means_expression left h.1 fun n hmem => hn n (.inl hmem)
    have hr := means_expression right h.2 fun n hmem => hn n (.inr hmem)
    exact means_and hl hr
  | .ref type, h, hn => by
    have htype := hn type (by simp [Validator.names])
    rw [Validator.Accepts, ← htype]
    exact ⟨.validator _, wordThing?_of_isBinding h, rfl⟩
  | .refined _ _, h, _ => h.elim
  | .withDefault _ _, h, _ => h.elim
  | .optional inner, h, hn => (means_suffix (means_expression inner h hn)).1
  | .nullable inner, h, hn => (means_suffix (means_expression inner h hn)).2

theorem means_expressions : ∀ vs : List Validator, ReadableAll identifier vs →
    (∀ n ∈ namesOfAll vs, values (identifier n) = env n) →
      List.Forall₂ (Means numeral values) (expressions identifier vs)
        (acceptAll (javaScript numeral) meets env vs)
  | [], _, _ => .nil
  | v :: vs, h, hn => by
    simp only [namesOfAll, List.mem_append] at hn
    have hv := means_expression v h.1 fun n hmem => hn n (.inl hmem)
    have hvs := means_expressions vs h.2 fun n hmem => hn n (.inr hmem)
    exact .cons hv hvs

theorem means_propertyExpressions : ∀ ps : List (Property Validator), ReadableProperties identifier ps →
    (∀ n ∈ namesOfProperties ps, values (identifier n) = env n) →
      List.Forall₂ (fun e p => Means numeral values e.value p) (propertyExpressions identifier ps)
        (acceptProperties (javaScript numeral) meets env ps)
  | [], _, _ => .nil
  | p :: ps, h, hn => by
    simp only [namesOfProperties, List.mem_append] at hn
    have hp := means_expression p.validator h.2.1 fun n hmem => hn n (.inl hmem)
    have hps := means_propertyExpressions ps h.2.2 fun n hmem => hn n (.inr hmem)
    exact .cons hp hps

end

end Standing

end SchemaGen.Zod
