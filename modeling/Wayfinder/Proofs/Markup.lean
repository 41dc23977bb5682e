import Wayfinder.Markup

namespace Wayfinder

structure Opening where
  tag : List Char
  attributes : List Attribute := []

inductive NameOf where
  | opening
  | closing
  | attribute (of : Opening)

/-- What is being read. A reference begins with `&`, and its name goes on up to `;`. -/
inductive ReaderMode where
  | text (reference : Option (List Char))
  | name (of : NameOf) (name : List Char)
  /-- After the `=` of an attribute. -/
  | equals (o : Opening) (name : List Char)
  | value (o : Opening) (name value : List Char) (reference : Option (List Char))
  /-- After the closing quote of a value. -/
  | quoted (o : Opening)

structure OpenElement where
  tag : String
  attributes : List Attribute
  classes : List String
  before : List Node

structure MarkupReader where
  mode : ReaderMode := .text none
  /-- The nodes read in the innermost open element, the latest first. -/
  nodes : List Node := []
  /-- The innermost first. -/
  elements : List OpenElement := []

def voidTags : List String :=
  ["area", "base", "br", "col", "embed", "hr", "img", "input", "link", "meta", "source",
    "track", "wbr"]

def isNameChar (c : Char) : Bool := c.isAlphanum || c = '-'

def isName (s : String) : Bool := s.toList.all isNameChar

def referred? : List Char → Option Char
  | ['a', 'm', 'p'] => some '&'
  | ['l', 't'] => some '<'
  | ['g', 't'] => some '>'
  | ['q', 'u', 'o', 't'] => some '"'
  | _ => none

def readChar : Option (List Char) → Char → Option (Option (List Char) × Option Char)
  | none, c => some (if c = '&' then (some [], none) else (none, some c))
  | some name, c =>
    if c = ';' then (referred? name).map fun c ↦ (none, some c) else some (some (name ++ [c]), none)

namespace Opening

variable (o : Opening)

def addAttribute (name value : List Char) : Opening :=
  { o with attributes := o.attributes ++ [⟨String.ofList name, String.ofList value⟩] }

def classWords (s : String) : List String :=
  ((s.toList.splitOn ' ').filter (· ≠ [])).map String.ofList

def classes : List String := (o.attributes.filter (·.name = "class")).flatMap fun a ↦
    classWords a.value

def others : List Attribute := o.attributes.filter (·.name ≠ "class")

end Opening

namespace MarkupReader

variable (r : MarkupReader)

def goOn (mode : ReaderMode) : MarkupReader := { r with mode }

def addChar : List Node → Char → List Node
  | .text s :: nodes, c => .text (s.push c) :: nodes
  | nodes, c => .text (String.singleton c) :: nodes

def enter (o : Opening) : MarkupReader :=
  let tag := String.ofList o.tag
  if tag ∈ voidTags then
    { r with mode := .text none, nodes := .void tag o.others o.classes :: r.nodes }
  else { mode := .text none, nodes := [], elements :=
    ⟨tag, o.others, o.classes, r.nodes⟩ :: r.elements }

def leave? (tag : String) : Option MarkupReader :=
  match r.elements with
  | [] => none
  | e :: rest =>
    if e.tag = tag then
      some ⟨.text none, .element tag e.attributes e.classes r.nodes.reverse :: e.before, rest⟩
    else none

def afterPart? (o : Opening) (c : Char) : Option MarkupReader :=
  if c = '>' then some (r.enter o)
  else if c = ' ' then some (r.goOn (.name (.attribute o) []))
  else none

def endName? (name : List Char) (c : Char) : NameOf → Option MarkupReader
  | .opening =>
    if name = [] then if c = '/' then some (r.goOn (.name .closing [])) else none
    else r.afterPart? ⟨name, []⟩ c
  | .closing => if c = '>' then r.leave? (String.ofList name) else none
  | .attribute o => if c = '=' then some (r.goOn (.equals o name)) else none

def step? (c : Char) : Option MarkupReader :=
  match r.mode with
  | .text reference =>
    if reference.isNone ∧ c = '<' then some (r.goOn (.name .opening []))
    else (readChar reference c).map fun read ↦
      { r with mode := .text read.1, nodes := read.2.elim r.nodes (addChar r.nodes) }
  | .name of name =>
    if isNameChar c then some (r.goOn (.name of (name ++ [c]))) else r.endName? name c of
  | .equals o name => if c = '"' then some (r.goOn (.value o name [] none)) else none
  | .value o name value reference =>
    if reference.isNone ∧ c = '"' then some (r.goOn (.quoted (o.addAttribute name value)))
    else (readChar reference c).map fun read ↦
      r.goOn (.value o name (read.2.elim value (value ++ [·])) read.1)
  | .quoted o => r.afterPart? o c

def read? (r : MarkupReader) : List Char → Option MarkupReader
  | [] => some r
  | c :: cs => (r.step? c).bind fun r ↦ r.read? cs

def nodes? : Option (List Node) :=
  match r.mode, r.elements with
  | .text none, [] => some r.nodes.reverse
  | _, _ => none

end MarkupReader

namespace Node

/-- The nodes that a text of markup stands for, if it is read to its end and every element is
closed. -/
def read? (text : String) : Option (List Node) :=
  (MarkupReader.read? {} text.toList).bind MarkupReader.nodes?

end Node

namespace Node

def allAttributes (attributes : List Attribute) (classes : List String) : List Attribute :=
  if classes.isEmpty then attributes else attributes ++ [⟨"class", " ".intercalate classes⟩]

theorem mem_allAttributes {attributes : List Attribute} {classes : List String} {a : Attribute}
    (member : a ∈ allAttributes attributes classes) :
    a ∈ attributes ∨ a = ⟨"class", " ".intercalate classes⟩ := by
  unfold allAttributes at member
  split at member
  · exact .inl member
  · simpa using member

end Node

/-- A tag that can be written as it is: with names that are names, and classes that can be told
apart. -/
structure PlainTag (tag : String) (attributes : List Attribute) (classes : List String) : Prop where
  named : tag.toList ≠ []
  tag : isName tag
  attributes : ∀ a ∈ attributes, a.name ≠ "class" ∧ isName a.name
  classes : ∀ s ∈ classes, s.toList ≠ [] ∧ ' ' ∉ s.toList

namespace PlainTag

variable {tag : String} {attributes : List Attribute} {classes : List String}

theorem classWords_intercalate (plain : ∀ s ∈ classes, s.toList ≠ [] ∧ ' ' ∉ s.toList)
    (some : classes ≠ []) :
    Opening.classWords (" ".intercalate classes) = classes := by
  have split : (" ".intercalate classes).toList.splitOn ' ' = classes.map String.toList := by
    rw [String.toList_intercalate]
    refine List.splitOn_intercalate ' ' ?_ (by simpa using some)
    intro word listed
    obtain ⟨s, member, rfl⟩ := List.mem_map.1 listed
    exact (plain s member).2
  have full : (classes.map String.toList).filter (· ≠ []) = classes.map String.toList := by
    refine List.filter_eq_self.2 fun word listed ↦ ?_
    obtain ⟨s, member, rfl⟩ := List.mem_map.1 listed
    exact decide_eq_true (plain s member).1
  rw [Opening.classWords, split, full, List.map_map]
  exact (List.map_congr_left fun s _ ↦ String.ofList_toList).trans (List.map_id classes)

theorem others (plain : PlainTag tag attributes classes) :
    (⟨tag.toList, Node.allAttributes attributes classes⟩ : Opening).others = attributes := by
  have kept : attributes.filter (·.name ≠ "class") = attributes :=
    List.filter_eq_self.2 fun a member ↦ decide_eq_true (plain.attributes a member).1
  unfold Opening.others Node.allAttributes
  split
  · exact kept
  · rw [List.filter_append, kept]
    simp

theorem read_classes (plain : PlainTag tag attributes classes) :
    (⟨tag.toList, Node.allAttributes attributes classes⟩ : Opening).classes = classes := by
  have none : attributes.filter (·.name = "class") = [] :=
    List.filter_eq_nil_iff.2 fun a member ↦ by simpa using (plain.attributes a member).1
  unfold Opening.classes Node.allAttributes
  split
  · rename_i empty
    rw [none, List.isEmpty_iff.1 empty]
    rfl
  · rename_i full
    rw [List.filter_append, none]
    simpa using classWords_intercalate plain.classes (by simpa using full)

end PlainTag

namespace MarkupReader

variable {r r' : MarkupReader} {o : Opening} {nodes : List Node} {elements : List OpenElement}

theorem read?_append {cs : List Char} (first : r.read? cs = some r') (rest : List Char) :
    r.read? (cs ++ rest) = r'.read? rest := by
  induction cs generalizing r with
  | nil =>
    obtain rfl : r = r' := Option.some.inj first
    rfl
  | cons c cs ih =>
    obtain ⟨next, step, first⟩ := Option.bind_eq_some_iff.1 first
    rw [List.cons_append, read?, step]
    exact ih first

theorem read?_name (of : NameOf) (before : List Char) {name : List Char}
    (plain : name.all isNameChar) :
    (r.goOn (.name of before)).read? name = some (r.goOn (.name of (before ++ name))) := by
  induction name generalizing before with
  | nil =>
    rw [List.append_nil]
    rfl
  | cons c name ih =>
    rw [List.all_cons, Bool.and_eq_true] at plain
    have first : (r.goOn (.name of before)).step? c = some (r.goOn (.name of (before ++ [c]))) :=
      if_pos plain.1
    rw [read?, first, Option.bind_some, ih _ plain.2, List.append_assoc, List.singleton_append]

section Text

theorem readChar_none {c : Char} (plain : c ≠ '&') : readChar none c = some (none, some c) := by
  rw [readChar, if_neg plain]

/-- However a character is written, it is read as itself. -/
theorem read?_escapeChar (c : Char) :
    read? ⟨.text none, nodes, elements⟩ (Node.escapeChar c) =
      some ⟨.text none, addChar nodes c, elements⟩ := by
  unfold Node.escapeChar
  split
  case h_4 ampersand less _ =>
    have text : step? ⟨.text none, nodes, elements⟩ c =
        some ⟨.text none, addChar nodes c, elements⟩ := by
      simp only [step?, readChar_none ampersand]
      rw [if_neg fun both ↦ less both.2]
      rfl
    rw [read?, text]
    rfl
  all_goals rfl

theorem read?_flatMap_escapeChar (cs : List Char) :
    read? ⟨.text none, nodes, elements⟩ (cs.flatMap Node.escapeChar) =
      some ⟨.text none, cs.foldl addChar nodes, elements⟩ := by
  induction cs generalizing nodes with
  | nil => rfl
  | cons c cs ih => rw [List.flatMap_cons, read?_append (read?_escapeChar c), ih, List.foldl_cons]

theorem foldl_addChar_text (cs : List Char) (s : String) :
    cs.foldl addChar (.text s :: nodes) = .text (s ++ String.ofList cs) :: nodes := by
  induction cs generalizing s with
  | nil => simp
  | cons c cs ih =>
    have pushed : s.push c ++ String.ofList cs = s ++ String.ofList (c :: cs) :=
      String.toList_inj.1 (by simp)
    rw [List.foldl_cons, addChar, ih, pushed]

end Text

section Tags

theorem read?_quotedChar (name before : List Char) (c : Char) :
    (r.goOn (.value o name before none)).read?
        (if c = '"' then ['&', 'q', 'u', 'o', 't', ';'] else Node.escapeChar c) =
      some (r.goOn (.value o name (before ++ [c]) none)) := by
  split
  · subst c
    rfl
  · rename_i quote
    unfold Node.escapeChar
    split
    case h_4 ampersand _ _ =>
      have value : (r.goOn (.value o name before none)).step? c =
          some (r.goOn (.value o name (before ++ [c]) none)) := by
        simp only [step?, goOn, readChar_none ampersand]
        rw [if_neg fun both ↦ quote both.2]
        rfl
      rw [read?, value]
      rfl
    all_goals rfl

theorem read?_escapeQuoted (name : List Char) (s : String) :
    (r.goOn (.value o name [] none)).read? (Node.escapeQuoted s) =
      some (r.goOn (.value o name s.toList none)) := by
  have all (cs before : List Char) : (r.goOn (.value o name before none)).read?
      (cs.flatMap fun c ↦ if c = '"' then ['&', 'q', 'u', 'o', 't', ';'] else Node.escapeChar c) =
        some (r.goOn (.value o name (before ++ cs) none)) := by
    induction cs generalizing before with
    | nil =>
      rw [List.append_nil]
      rfl
    | cons c cs ih =>
      rw [List.flatMap_cons, read?_append (read?_quotedChar name before c), ih, List.append_assoc,
        List.singleton_append]
  exact all s.toList []

/-- An attribute may follow the name of the tag or another attribute. -/
theorem read?_attributeChars {a : Attribute} (plain : isName a.name) :
    (r.goOn (.quoted o)).read? (Node.attributeChars a) =
      some (r.goOn (.quoted { o with attributes := o.attributes ++ [a] })) := by
  have space : (r.goOn (.quoted o)).read? [' '] = some (r.goOn (.name (.attribute o) [])) := rfl
  have equals : (r.goOn (.name (.attribute o) a.name.toList)).read? ['=', '"'] =
      some (r.goOn (.value o a.name.toList [] none)) := rfl
  have quote : (r.goOn (.value o a.name.toList a.value.toList none)).read? ['"'] =
      some (r.goOn (.quoted (o.addAttribute a.name.toList a.value.toList))) := rfl
  have same : o.addAttribute a.name.toList a.value.toList =
      { o with attributes := o.attributes ++ [a] } := by
    rw [Opening.addAttribute, String.ofList_toList, String.ofList_toList]
  calc (r.goOn (.quoted o)).read? (Node.attributeChars a)
      = (r.goOn (.quoted o)).read?
          ([' '] ++ (a.name.toList ++ (['=', '"'] ++ (Node.escapeQuoted a.value ++ ['"'])))) := by
        simp [Node.attributeChars]
    _ = (r.goOn (.quoted (o.addAttribute a.name.toList a.value.toList))).read? [] := by
        rw [read?_append space, read?_append (read?_name _ _ plain), List.nil_append,
          read?_append equals, read?_append (read?_escapeQuoted _ _), quote]
        rfl
    _ = _ := by rw [same, read?]

theorem read?_attributes {attributes : List Attribute}
    (plain : ∀ a ∈ attributes, isName a.name) :
    (r.goOn (.quoted o)).read? (attributes.flatMap Node.attributeChars ++ ['>']) =
      some (r.enter { o with attributes := o.attributes ++ attributes }) := by
  induction attributes generalizing o with
  | nil =>
    rw [List.append_nil]
    rfl
  | cons a attributes ih =>
    have first := read?_attributeChars (r := r) (o := o) (plain a List.mem_cons_self)
    rw [List.flatMap_cons, List.append_assoc, read?_append first,
      ih fun a' member ↦ plain a' (List.mem_cons_of_mem a member), List.append_assoc,
        List.singleton_append]

/-- The name of a tag ends where an attribute could end. -/
theorem step?_endOfName {tag : List Char} (named : tag ≠ []) {c : Char}
    (other : isNameChar c = false) :
    (r.goOn (.name .opening tag)).step? c = (r.goOn (.quoted ⟨tag, []⟩)).step? c := by
  simp only [step?, goOn, other, Bool.false_eq_true, if_false, endName?, if_neg named]
  rfl

/-- The name of a tag and all its attributes, up to the end of the tag. -/
theorem read?_restOfTag {tag : List Char} (named : tag ≠ []) {attributes : List Attribute}
    (plain : ∀ a ∈ attributes, isName a.name) :
    (r.goOn (.name .opening tag)).read? (attributes.flatMap Node.attributeChars ++ ['>']) =
      some (r.enter ⟨tag, attributes⟩) := by
  have afterName :
      (r.goOn (.name .opening tag)).read? (attributes.flatMap Node.attributeChars ++ ['>']) =
      (r.goOn (.quoted ⟨tag, []⟩)).read? (attributes.flatMap Node.attributeChars ++ ['>']) := by
    cases attributes with
    | nil =>
      rw [List.flatMap_nil, List.nil_append, read?, step?_endOfName named (by decide)]
      rfl
    | cons a rest =>
      obtain ⟨cs, space⟩ : ∃ cs, (a :: rest).flatMap Node.attributeChars ++ ['>'] = ' ' :: cs :=
        ⟨_, rfl⟩
      rw [space, read?, step?_endOfName named (by decide)]
      rfl
  rw [afterName, read?_attributes plain, List.nil_append]

theorem read?_openTag {tag : String} {attributes : List Attribute} {classes : List String}
    (plain : PlainTag tag attributes classes) :
    read? ⟨.text none, nodes, elements⟩ (Node.openTag tag attributes classes) =
      some (enter ⟨.text none, nodes, elements⟩ ⟨tag.toList,
        Node.allAttributes attributes classes⟩) := by
  have less : read? ⟨.text none, nodes, elements⟩ ['<'] =
      some (goOn ⟨.text none, nodes, elements⟩ (.name .opening [])) := rfl
  have names : ∀ a ∈ Node.allAttributes attributes classes, isName a.name := by
    intro a member
    obtain member | rfl := Node.mem_allAttributes member
    · exact (plain.attributes a member).2
    · show isName "class"
      decide
  have parts : Node.openTag tag attributes classes = ['<'] ++ (tag.toList ++
      ((Node.allAttributes attributes classes).flatMap Node.attributeChars ++ ['>'])) := by
    simp [Node.openTag, Node.allAttributes]
  rw [parts, read?_append less, read?_append (read?_name _ _ plain.tag), List.nil_append,
    read?_restOfTag plain.named names]

end Tags

end MarkupReader

namespace Node

def startsWithText : List Node → Bool
  | .text _ :: _ => true
  | _ => false

mutual

/-- The node can be told from what stands around it: no text is empty or stands next to another, and
an element is closed unless it is void. -/
def Plain : Node → Prop
  | text s => s ≠ ""
  | element tag attributes classes children =>
    PlainTag tag attributes classes ∧ tag ∉ voidTags ∧ AllPlain children
  | void tag attributes classes => PlainTag tag attributes classes ∧ tag ∈ voidTags

def AllPlain : List Node → Prop
  | [] => True
  | node :: nodes => node.Plain ∧ (startsWithText [node] && startsWithText nodes) = false ∧
    AllPlain nodes

end

theorem startsWithText_cons (node : Node) (nodes : List Node) :
    startsWithText (node :: nodes) = startsWithText [node] := by
  cases node <;> rfl

end Node

namespace MarkupReader

variable {nodes : List Node} {elements : List OpenElement}

theorem read?_text {s : String} (full : s ≠ "") (apart : Node.startsWithText nodes = false) :
    read? ⟨.text none, nodes, elements⟩ (Node.escapeText s) =
      some ⟨.text none, .text s :: nodes, elements⟩ := by
  have written : Node.escapeText s = s.toList.flatMap Node.escapeChar :=
    if_neg (by simpa using full)
  rw [written, read?_flatMap_escapeChar]
  cases chars : s.toList with
  | nil => exact absurd (String.toList_inj.1 (by simpa using chars)) full
  | cons c cs =>
    have first : addChar nodes c = .text (String.singleton c) :: nodes := by
      unfold addChar
      split
      · cases apart
      · rfl
    have same : String.singleton c ++ String.ofList cs = s := String.toList_inj.1 (by simp [chars])
    rw [List.foldl_cons, first, foldl_addChar_text, same]

theorem enter_void {tag : String} {attributes : List Attribute} {classes : List String}
    (plain : PlainTag tag attributes classes) (isVoid : tag ∈ voidTags) :
    enter ⟨.text none, nodes, elements⟩ ⟨tag.toList, Node.allAttributes attributes classes⟩ =
      ⟨.text none, .void tag attributes classes :: nodes, elements⟩ := by
  simp only [enter, plain.others, plain.read_classes, String.ofList_toList, if_pos isVoid]

theorem enter_element {tag : String} {attributes : List Attribute} {classes : List String}
    (plain : PlainTag tag attributes classes) (closed : tag ∉ voidTags) :
    enter ⟨.text none, nodes, elements⟩ ⟨tag.toList, Node.allAttributes attributes classes⟩ =
      ⟨.text none, [], ⟨tag, attributes, classes, nodes⟩ :: elements⟩ := by
  simp only [enter, plain.others, plain.read_classes, String.ofList_toList, if_neg closed]

theorem read?_closeTag {tag : String} {attributes : List Attribute} {classes : List String}
    (plain : isName tag) {before : List Node} :
    read? ⟨.text none, nodes, ⟨tag, attributes, classes, before⟩ :: elements⟩ (Node.closeTag tag) =
      some ⟨.text none, .element tag attributes classes nodes.reverse :: before, elements⟩ := by
  let r : MarkupReader := ⟨.text none, nodes, ⟨tag, attributes, classes, before⟩ :: elements⟩
  have slash : r.read? ['<', '/'] = some (r.goOn (.name .closing [])) := rfl
  have last : (r.goOn (.name .closing tag.toList)).read? ['>'] =
      (r.leave? (String.ofList tag.toList)).bind some := rfl
  have closing : Node.closeTag tag = ['<', '/'] ++ (tag.toList ++ ['>']) := by simp [Node.closeTag]
  rw [closing, read?_append slash, read?_append (read?_name _ _ plain), List.nil_append, last,
    String.ofList_toList]
  have matched :
      r.leave? tag = some ⟨.text none, .element tag attributes classes nodes.reverse :: before,
        elements⟩ :=
    if_pos rfl
  rw [matched, Option.bind_some]

mutual

theorem read?_chars :
    ∀ (node : Node) {nodes : List Node} {elements : List OpenElement}, node.Plain →
    (Node.startsWithText [node] && Node.startsWithText nodes) = false →
    read? ⟨.text none, nodes, elements⟩ node.chars = some ⟨.text none, node :: nodes, elements⟩
  | .text s, nodes, elements, plain, apart => by
    rw [Node.Plain] at plain
    rw [Node.chars, read?_text plain apart]
  | .element tag attributes classes children, nodes, elements, plain, _ => by
    rw [Node.Plain] at plain
    obtain ⟨plain, closed, inside⟩ := plain
    have opened : read? ⟨.text none, nodes, elements⟩ (Node.openTag tag attributes classes) =
        some ⟨.text none, [], ⟨tag, attributes, classes, nodes⟩ :: elements⟩ := by
      rw [read?_openTag plain, enter_element plain closed]
    rw [Node.chars, List.append_assoc, read?_append opened,
      read?_append (read?_allChars children inside (Bool.and_false _)), read?_closeTag plain.tag,
      List.append_nil, List.reverse_reverse]
  | .void tag attributes classes, nodes, elements, plain, _ => by
    rw [Node.Plain] at plain
    rw [Node.chars, read?_openTag plain.1, enter_void plain.1 plain.2]

theorem read?_allChars : ∀ (l : List Node) {nodes : List Node}
    {elements : List OpenElement}, Node.AllPlain l →
    (Node.startsWithText l && Node.startsWithText nodes) = false →
    read? ⟨.text none, nodes, elements⟩ (Node.allChars l) =
      some ⟨.text none, l.reverse ++ nodes, elements⟩
  | [], nodes, elements, _, _ => by rw [Node.allChars, read?, List.reverse_nil, List.nil_append]
  | node :: l, nodes, elements, plain, apart => by
    rw [Node.AllPlain] at plain
    obtain ⟨first, between, rest⟩ := plain
    rw [Node.startsWithText_cons] at apart
    rw [Bool.and_comm, ← Node.startsWithText_cons node nodes] at between
    rw [Node.allChars, read?_append (read?_chars node first apart), read?_allChars l rest between,
      List.reverse_cons, List.append_assoc, List.singleton_append]

end

end MarkupReader

namespace Node

/-- Rendered nodes are read as what they are. -/
theorem read?_renderAll {nodes : List Node} (plain : AllPlain nodes) :
    read? (renderAll nodes) = some nodes := by
  have all : MarkupReader.read? {} (allChars nodes) = some ⟨.text none, nodes.reverse ++ [], []⟩ :=
    MarkupReader.read?_allChars nodes plain (Bool.and_false _)
  rw [read?, renderAll, String.toList_ofList, all, Option.bind_some, MarkupReader.nodes?,
    List.append_nil, List.reverse_reverse]

-- Text that is not escaped is taken for tags.
example : read? "<b>one</b><b>&lt;two</b>" =
    some [.element "b" [] [] [.text "one"], .element "b" [] [] [.text "<two"]] := by cbv

example : read? "<b>one</i></b>" = none := by cbv

end Node

end Wayfinder
