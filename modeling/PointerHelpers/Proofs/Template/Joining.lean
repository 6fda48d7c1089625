import PointerHelpers.Proofs.Template.Reading

namespace PointerHelpers.Template

/-- Two lists one after the other. The last element of the first list and the first one of the second
are made one where they can be. -/
def joinWith {α : Type} (fuse : α → α → Option α) : List α → List α → List α
  | [], later => later
  | [x], [] => [x]
  | [x], y :: later =>
    match fuse x y with
    | some z => z :: later
    | none => x :: y :: later
  | x :: x' :: earlier, later => x :: joinWith fuse (x' :: earlier) later

section Join

variable {α β : Type} {fuse : α → α → Option α}

theorem joinWith_nil (earlier : List α) : joinWith fuse earlier [] = earlier := by
  induction earlier with
  | nil => rfl
  | cons x earlier ih =>
    cases earlier with
    | nil => rfl
    | cons x' earlier => rw [joinWith, ih]

theorem joinWith_cons_of_none {x : α} (h : ∀ y, fuse x y = none) (earlier later : List α) :
    joinWith fuse (x :: earlier) later = x :: joinWith fuse earlier later := by
  cases earlier with
  | cons x' earlier => rfl
  | nil =>
    cases later with
    | nil => rfl
    | cons y later => simp only [joinWith, h y]

theorem joinWith_append_left (first : List α) {second : List α} (h : second ≠ [])
    (later : List α) :
    joinWith fuse (first ++ second) later = first ++ joinWith fuse second later := by
  induction first with
  | nil => rfl
  | cons x first ih =>
    obtain ⟨y, rest, hy⟩ := List.exists_cons_of_ne_nil (List.append_ne_nil_of_right_ne_nil first h)
    rw [List.cons_append, List.cons_append, ← ih, hy, joinWith]

theorem joinWith_append_right (earlier first : List α) {second : List α}
    (h : ∀ y ∈ second.head?, ∀ x, fuse x y = none) :
    joinWith fuse earlier (first ++ second) = joinWith fuse earlier first ++ second := by
  fun_induction joinWith fuse earlier first with
  | case1 first => rfl
  | case2 x =>
    cases second with
    | nil => rfl
    | cons y second => simp only [List.nil_append, joinWith, h y rfl x, List.singleton_append]
  | case3 x y first z hz => simp only [List.cons_append, joinWith, hz]
  | case4 x y first hn => simp only [List.cons_append, joinWith, hn]
  | case5 x x' earlier first ih => rw [joinWith, ih, List.cons_append]

theorem map_joinWith {f : α → β} {fuse' : β → β → Option β}
    (h : ∀ x y, fuse' (f x) (f y) = (fuse x y).map f) (earlier later : List α) :
    (joinWith fuse earlier later).map f = joinWith fuse' (earlier.map f) (later.map f) := by
  fun_induction joinWith fuse earlier later with
  | case1 | case2 => rfl
  | case3 x y later z hz => simp only [List.map_cons, List.map_nil, joinWith, h, hz, Option.map_some]
  | case4 x y later hn => simp only [List.map_cons, List.map_nil, joinWith, h, hn, Option.map_none]
  | case5 x x' earlier later ih => simpa only [List.map_cons, joinWith, List.cons.injEq, true_and] using ih

end Join

def Node.fuse : Node → Node → Option Node
  | .text content, .text later => some (.text (content ++ later))
  | _, _ => none

def Event.fuse : Event → Event → Option Event
  | .text content, .text later => some (.text (content ++ later))
  | _, _ => none

def Token.fuse : Token → Token → Option Token
  | ⟨span, .text content⟩, ⟨span', .text later⟩ =>
    some ⟨⟨span.start, span'.stop⟩, .text (content ++ later)⟩
  | _, _ => none

theorem readNodes_singleton (node : Node) : readNodes [node] = readNode node := by
  rw [readNodes, readNodes, List.append_nil]

theorem readNode_ne_nil (node : Node) : readNode node ≠ [] := by
  cases node <;> simp [readNode]

theorem readNodes_joinWith (earlier later : List Node) :
    readNodes (joinWith Node.fuse earlier later) =
      joinWith Event.fuse (readNodes earlier) (readNodes later) := by
  fun_induction joinWith Node.fuse earlier later with
  | case1 later => rw [readNodes, joinWith]
  | case2 x => rw [readNodes, joinWith_nil]
  | case3 x y later z hz =>
    cases x <;> cases y <;> cases hz
    simp only [readNodes, readNode, List.append_nil, List.singleton_append, joinWith, Event.fuse]
  | case4 x y later hn =>
    have ht (mark : Tag) : joinWith Event.fuse [.tag mark] (readNodes (y :: later)) =
        .tag mark :: readNodes (y :: later) := joinWith_cons_of_none (fun _ => rfl) _ _
    rw [readNodes, readNodes_singleton]
    cases x with
    | text content =>
      cases y with
      | text content' => cases hn
      | value | inclusion | block => simp [readNodes, readNode, joinWith, Event.fuse]
    | value name | inclusion template => exact (ht _).symm
    | block kind name body =>
      rw [readNode, joinWith_append_left _ (by simp), ht, List.append_assoc, List.singleton_append]
  | case5 x x' earlier later ih =>
    have hne : readNodes (x' :: earlier) ≠ [] := by
      rw [readNodes]
      exact List.append_ne_nil_of_left_ne_nil (readNode_ne_nil x') _
    rw [readNodes, ih, readNodes.eq_2 x, joinWith_append_left _ hne]

def fuseSome : Option Event → Option Event → Option (Option Event)
  | some event, some later => (event.fuse later).map some
  | _, _ => none

theorem event?_joinWith {tokens later : List Token} {events events' : List Event}
    (h : tokens.map Token.event? = events.map some)
    (hl : later.map Token.event? = events'.map some) :
    (joinWith Token.fuse tokens later).map Token.event? =
      (joinWith Event.fuse events events').map some := by
  have hs (event event' : Event) : fuseSome (some event) (some event') =
      (event.fuse event').map some := rfl
  have ht (token token' : Token) : fuseSome token.event? token'.event? =
      (token.fuse token').map Token.event? := by
    obtain ⟨span, kind⟩ := token
    obtain ⟨span', kind'⟩ := token'
    cases kind <;> cases kind' <;> rfl
  rw [map_joinWith ht, map_joinWith hs, h, hl]

def Span.shift (bytes : Nat) (span : Span) : Span := ⟨bytes + span.start, bytes + span.stop⟩

def Mistake.shift (bytes : Nat) (mistake : Mistake) : Mistake :=
  ⟨mistake.fault, mistake.span.shift bytes⟩

def Token.shift (bytes : Nat) (token : Token) : Token := ⟨token.span.shift bytes, token.kind⟩

theorem Span.shift_zero (span : Span) : span.shift 0 = span := by
  simp [shift]

theorem Mistake.shift_zero (mistake : Mistake) : mistake.shift 0 = mistake := by
  rw [shift, Span.shift_zero]

theorem Token.shift_zero : Token.shift 0 = id :=
  funext fun token => by rw [shift, Span.shift_zero, id]

def OpenBlock.heading (opened : OpenBlock) : Block × String × Span :=
  (opened.kind, opened.name, opened.span)

/-- The nodes that are found before a mistake have no part in it. -/
theorem build_shift (bytes : Nat) {tokens : List Token} {stack stack' : List OpenBlock}
    {nodes : List Node} {mistake : Mistake}
    (hs : stack'.map OpenBlock.heading =
      stack.map fun opened => (opened.kind, opened.name, opened.span.shift bytes))
    (h : build tokens stack nodes = .error mistake) (nodes' : List Node) :
    build (tokens.map (Token.shift bytes)) stack' nodes' = .error (mistake.shift bytes) := by
  induction tokens generalizing stack stack' nodes nodes' with
  | nil =>
    cases stack with
    | nil => cases h
    | cons opened stack =>
      cases h
      obtain ⟨opened', stack', rfl, ho, -⟩ := List.map_eq_cons_iff.mp hs
      simp only [OpenBlock.heading, Prod.mk.injEq] at ho
      obtain ⟨hk, hn, hp⟩ := ho
      rw [List.map_nil, build, hk, hn, hp]
      rfl
  | cons token rest ih =>
    obtain ⟨span, kind⟩ := token
    rw [List.map_cons, Token.shift]
    cases kind with
    | text content =>
      rw [build] at h ⊢
      exact ih hs h _
    | fault fault =>
      cases h
      rfl
    | tag tag =>
      cases tag with
      | value name | inclusion template =>
        rw [build] at h ⊢
        exact ih hs h _
      | opening kind name =>
        rw [build] at h ⊢
        refine ih ?_ h _
        rw [List.map_cons, List.map_cons, hs]
        rfl
      | closing keyword =>
        cases stack with
        | nil =>
          rw [List.map_eq_nil_iff.mp hs]
          cases h
          rfl
        | cons opened stack =>
          obtain ⟨opened', stack', rfl, ho, hs⟩ := List.map_eq_cons_iff.mp hs
          simp only [OpenBlock.heading, Prod.mk.injEq] at ho
          -- The blocks that are open are of the same kinds, so that the tag closes both or neither.
          rw [build] at h ⊢
          rw [ho.1]
          by_cases hk : opened.kind.keyword = keyword
          · rw [if_pos hk] at h ⊢
            exact ih hs h _
          · rw [if_neg hk] at h ⊢
            cases h
            rfl

theorem build_error_congr {tokens : List Token} {nodes : List Node} {mistake : Mistake}
    (h : build tokens [] nodes = .error mistake) (nodes' : List Node) :
    build tokens [] nodes' = .error mistake := by
  have hs : build (tokens.map (Token.shift 0)) [] nodes' = .error (mistake.shift 0) :=
    build_shift 0 rfl h nodes'
  rwa [Token.shift_zero, List.map_id, Mistake.shift_zero] at hs

theorem exists_build_cons {token : Token} {tokens : List Token} {stack : List OpenBlock}
    {nodes result : List Node} (h : build (token :: tokens) stack nodes = .ok result) :
    ∃ stack' nodes', ∀ rest, build (token :: rest) stack nodes = build rest stack' nodes' := by
  obtain ⟨span, kind⟩ := token
  cases kind with
  | text content => exact ⟨_, _, fun _ => by rw [build]⟩
  | fault fault => cases h
  | tag tag =>
    cases tag with
    | value | inclusion | opening => exact ⟨_, _, fun _ => by rw [build]⟩
    | closing keyword =>
      cases stack with
      | nil => cases h
      | cons opened stack =>
        by_cases hk : opened.kind.keyword = keyword
        · exact ⟨_, _, fun _ => by rw [build, if_pos hk]⟩
        · rw [build, if_neg hk] at h
          cases h

theorem stack_of_build_nil {stack : List OpenBlock} {nodes result : List Node}
    (h : build [] stack nodes = .ok result) : stack = [] := by
  cases stack with
  | nil => rfl
  | cons opened stack => cases h

theorem build_joinWith {tokens later : List Token} {stack : List OpenBlock}
    {nodes result : List Node} {mistake : Mistake} (h : build tokens stack nodes = .ok result)
    (hl : build later [] [] = .error mistake) :
    build (joinWith Token.fuse tokens later) stack nodes = .error mistake := by
  fun_induction joinWith Token.fuse tokens later generalizing stack nodes with
  | case1 later =>
    rw [stack_of_build_nil h]
    exact build_error_congr hl nodes
  | case2 token => cases hl
  | case3 token token' later joined hj =>
    obtain ⟨span, kind⟩ := token
    obtain ⟨span', kind'⟩ := token'
    cases kind <;> cases kind' <;> cases hj
    rw [build] at h hl ⊢
    rw [stack_of_build_nil h]
    exact build_error_congr hl _
  | case4 token token' later hn =>
    obtain ⟨stack', nodes', hb⟩ := exists_build_cons h
    rw [hb] at h ⊢
    rw [stack_of_build_nil h]
    exact build_error_congr hl nodes'
  | case5 token token' tokens later ih =>
    obtain ⟨stack', nodes', hb⟩ := exists_build_cons h
    rw [hb] at h ⊢
    exact ih h hl

end PointerHelpers.Template
