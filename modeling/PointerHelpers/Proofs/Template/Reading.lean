import PointerHelpers.Template.Parser

namespace PointerHelpers.Template

/-- What is met when a tree is read in order: texts, and tags, where a block has a tag at each end. -/
inductive Event where
  | text (content : String)
  | tag (tag : Tag)
  deriving DecidableEq

mutual

def readNode : Node → List Event
  | .text content => [.text content]
  | .value name => [.tag (.value name)]
  | .inclusion template => [.tag (.inclusion template)]
  | .block kind name body =>
    .tag (.opening kind name) :: readNodes body ++ [.tag (.closing kind.keyword)]

def readNodes : List Node → List Event
  | [] => []
  | node :: rest => readNode node ++ readNodes rest

end

theorem readNodes_append (nodes rest : List Node) :
    readNodes (nodes ++ rest) = readNodes nodes ++ readNodes rest := by
  induction nodes with
  | nil => rfl
  | cons node nodes ih => rw [List.cons_append, readNodes, readNodes, ih, List.append_assoc]

theorem readNodes_reverse_cons (node : Node) (nodes : List Node) :
    readNodes (node :: nodes).reverse = readNodes nodes.reverse ++ readNode node := by
  rw [List.reverse_cons, readNodes_append, readNodes, readNodes, List.append_nil]

def readOpen : List OpenBlock → List Node → List Event
  | [], nodes => readNodes nodes.reverse
  | opened :: stack, nodes =>
    readOpen stack opened.before ++ .tag (.opening opened.kind opened.name) ::
      readNodes nodes.reverse

theorem readOpen_cons (stack : List OpenBlock) (node : Node) (nodes : List Node) :
    readOpen stack (node :: nodes) = readOpen stack nodes ++ readNode node := by
  cases stack with
  | nil => exact readNodes_reverse_cons node nodes
  | cons opened stack =>
    rw [readOpen, readOpen, readNodes_reverse_cons, List.append_assoc, List.cons_append]

def Token.event? (token : Token) : Option Event :=
  match token.kind with
  | .text content => some (.text content)
  | .tag tag => some (.tag tag)
  | .fault _ => none

theorem readNodes_of_build {tokens : List Token} {stack : List OpenBlock} {nodes result : List Node}
    (h : build tokens stack nodes = .ok result) :
    (∀ token ∈ tokens, token.event?.isSome = true) ∧
      readNodes result = readOpen stack nodes ++ tokens.filterMap Token.event? := by
  induction tokens generalizing stack nodes with
  | nil =>
    cases stack with
    | nil =>
      rw [build] at h
      cases h
      simp [readOpen]
    | cons opened stack => cases h
  | cons token rest ih =>
    obtain ⟨span, kind⟩ := token
    rw [List.forall_mem_cons]
    cases kind with
    | text content =>
      rw [build] at h
      obtain ⟨hs, hr⟩ := ih h
      refine ⟨⟨rfl, hs⟩, ?_⟩
      rw [hr, readOpen_cons, List.append_assoc]
      rfl
    | fault fault => cases h
    | tag tag =>
      cases tag with
      | value name | inclusion template =>
        rw [build] at h
        obtain ⟨hs, hr⟩ := ih h
        refine ⟨⟨rfl, hs⟩, ?_⟩
        rw [hr, readOpen_cons, List.append_assoc]
        rfl
      | opening kind name =>
        rw [build] at h
        obtain ⟨hs, hr⟩ := ih h
        refine ⟨⟨rfl, hs⟩, ?_⟩
        rw [hr, readOpen, List.append_assoc]
        rfl
      | closing keyword =>
        cases stack with
        | nil => cases h
        | cons opened stack =>
          rw [build] at h
          split at h
          -- The block goes to the nodes before it with the keyword that it was opened with.
          · rename_i hk
            obtain ⟨hs, hr⟩ := ih h
            refine ⟨⟨rfl, hs⟩, ?_⟩
            rw [hr, readOpen_cons, readOpen, readNode, hk]
            simp [Token.event?]
          · cases h

theorem readNodes_of_parse {text : String} {nodes : List Node} (h : parse text = .ok nodes) :
    (∀ token ∈ Token.scan text, token.event?.isSome = true) ∧
      readNodes nodes = (Token.scan text).filterMap Token.event? :=
  readNodes_of_build h

theorem Token.event?_eq_text_iff (token : Token) (content : String) :
    token.event? = some (.text content) ↔ token.kind = .text content := by
  rw [Token.event?]
  cases token.kind <;> simp

theorem Token.event?_eq_tag_iff (token : Token) (mark : Tag) :
    token.event? = some (.tag mark) ↔ token.kind = .tag mark := by
  rw [Token.event?]
  cases token.kind <;> simp

mutual

theorem build_readNode (node : Node) {tokens : List Token}
    (h : tokens.map Token.event? = (readNode node).map some) (rest : List Token)
    (stack : List OpenBlock) (before : List Node) :
    build (tokens ++ rest) stack before = build rest stack (node :: before) := by
  cases node with
  | text content =>
    obtain ⟨⟨span, kind⟩, rfl, ht⟩ := List.map_eq_singleton_iff.mp h
    obtain rfl := (Token.event?_eq_text_iff _ _).mp ht
    rw [List.singleton_append, build]
  | value name | inclusion template =>
    obtain ⟨⟨span, kind⟩, rfl, ht⟩ := List.map_eq_singleton_iff.mp h
    obtain rfl := (Token.event?_eq_tag_iff _ _).mp ht
    rw [List.singleton_append, build]
  | block kind name body =>
    rw [readNode, List.map_append, List.map_cons, List.cons_append] at h
    obtain ⟨⟨start, first⟩, inner, rfl, hf, hi⟩ := List.map_eq_cons_iff.mp h
    obtain ⟨held, last, rfl, hb, hl⟩ := List.map_eq_append_iff.mp hi
    obtain ⟨⟨stop, final⟩, rfl, hc⟩ := List.map_eq_singleton_iff.mp hl
    obtain rfl := (Token.event?_eq_tag_iff _ _).mp hf
    obtain rfl := (Token.event?_eq_tag_iff _ _).mp hc
    rw [List.cons_append, build, List.append_assoc, build_readNodes body hb, List.append_nil,
      List.singleton_append, build, if_pos rfl, List.reverse_reverse]

theorem build_readNodes (nodes : List Node) {tokens : List Token}
    (h : tokens.map Token.event? = (readNodes nodes).map some) (rest : List Token)
    (stack : List OpenBlock) (before : List Node) :
    build (tokens ++ rest) stack before = build rest stack (nodes.reverse ++ before) := by
  cases nodes with
  | nil =>
    obtain rfl := List.map_eq_nil_iff.mp h
    rfl
  | cons node nodes =>
    rw [readNodes, List.map_append] at h
    obtain ⟨first, others, rfl, hf, ho⟩ := List.map_eq_append_iff.mp h
    rw [List.append_assoc, build_readNode node hf, build_readNodes nodes ho, List.reverse_cons,
      List.append_assoc, List.singleton_append]

end

/-- A tree is what a text is parsed as exactly when the tokens of the text are what is met in it. -/
theorem parse_eq_ok_iff (text : String) (nodes : List Node) :
    parse text = .ok nodes ↔ (Token.scan text).map Token.event? = (readNodes nodes).map some := by
  constructor
  · intro h
    obtain ⟨hs, hr⟩ := readNodes_of_parse h
    rw [hr, List.map_filterMap_some_eq_filter_map_isSome, List.filter_eq_self.mpr]
    simpa using hs
  · intro h
    have hb := build_readNodes nodes h [] [] []
    rw [List.append_nil, List.append_nil] at hb
    rw [parse, hb, build, List.reverse_reverse]

end PointerHelpers.Template
