import Feuilleton.Document.Removal

/-!
# Pruned trees

Removing listed nodes one after the other leaves the pruned tree, which lacks the unwanted nodes
with all that stands in them and nothing else. Every node is reached by a line of nodes from the
outermost one on; those lines remain on which nothing is unwanted.
-/

namespace Feuilleton.Document

variable {node : Node} {nodes rest : List Node} {unwanted : Node → Bool} {number i : Nat}
  {gone : List Span} {entry : Numbered}

/-! ## Trees -/

/-- The node with other children; texts and comments have none. -/
def Node.withChildren (children : List Node) : Node → Node
  | .element name attributes _ => .element name attributes children
  | .text content => .text content
  | .comment content => .comment content

@[elab_as_elim]
theorem forest_induction {motive : List Node → Prop} (nil : motive [])
    (cons : ∀ node rest, motive node.children → motive rest → motive (node :: rest)) :
    ∀ nodes, motive nodes
  | [] => nil
  | .element name attributes children :: rest =>
      cons _ rest (forest_induction nil cons children) (forest_induction nil cons rest)
  | .text content :: rest => cons _ rest nil (forest_induction nil cons rest)
  | .comment content :: rest => cons _ rest nil (forest_induction nil cons rest)

theorem Node.descendants_eq (node : Node) : node.descendants = preorder node.children := by
  cases node <;> rfl

theorem Node.size_eq (node : Node) : node.size = 1 + totalSize node.children := by
  cases node <;> rfl

theorem totalSize_eq_length (nodes : List Node) : totalSize nodes = (preorder nodes).length := by
  induction nodes using forest_induction with
  | nil => rfl
  | cons node rest below ih =>
      rw [totalSize, preorder, node.size_eq, node.descendants_eq, below, ih]
      simp only [List.length_cons, List.length_append]
      omega

theorem Node.remaining_eq (gone : List Span) (number : Nat) (node : Node) :
    node.remaining gone number =
      node.withChildren (remainingFrom gone (number + 1) node.children) := by
  cases node <;> rfl

/-! ## Numbers -/

theorem numberedFrom_cons (number : Nat) (node : Node) (rest : List Node) :
    numberedFrom number (node :: rest) = (node, number) ::
      (numberedFrom (number + 1) node.children ++ numberedFrom (number + node.size) rest) := by
  rw [numberedFrom, preorder, List.zipIdx_cons, List.zipIdx_append, node.descendants_eq,
    ← totalSize_eq_length, Nat.add_assoc, ← node.size_eq]
  rfl

theorem mem_numberedFrom_cons : entry ∈ numberedFrom number (node :: rest) ↔
    entry = (node, number) ∨ entry ∈ numberedFrom (number + 1) node.children ∨
      entry ∈ numberedFrom (number + node.size) rest := by
  rw [numberedFrom_cons, List.mem_cons, List.mem_append]

/-- The numbers of a node stand among those of the nodes it comes from. -/
theorem bounds_of_mem_numberedFrom (h : entry ∈ numberedFrom number nodes) :
    number ≤ entry.2 ∧ entry.2 + entry.1.size ≤ number + totalSize nodes := by
  induction nodes using forest_induction generalizing number with
  | nil => cases h
  | cons node rest below ih =>
      rw [totalSize]
      rcases mem_numberedFrom_cons.1 h with rfl | hbelow | hrest
      · simp only
        omega
      · have hbounds := below hbelow
        have hsize := node.size_eq
        omega
      · have hbounds := ih hrest
        omega

/-! ## Pruned trees -/

mutual

def Node.pruned (unwanted : Node → Bool) : Node → Node
  | .element name attributes children => .element name attributes (prune unwanted children)
  | .text content => .text content
  | .comment content => .comment content

/-- Leaves out the unwanted nodes with everything below them. -/
def prune (unwanted : Node → Bool) : List Node → List Node
  | [] => []
  | node :: rest =>
      if unwanted node then prune unwanted rest
      else node.pruned unwanted :: prune unwanted rest

end

theorem Node.pruned_eq (unwanted : Node → Bool) (node : Node) :
    node.pruned unwanted = node.withChildren (prune unwanted node.children) := by
  cases node <;> rfl

@[simp] theorem Node.withChildren_pruned (unwanted : Node → Bool) (children : List Node)
    (node : Node) : (node.pruned unwanted).withChildren children = node.withChildren children := by
  cases node <;> rfl

@[simp] theorem Node.children_pruned (unwanted : Node → Bool) (node : Node) :
    (node.pruned unwanted).children = prune unwanted node.children := by
  cases node <;> rfl

/-- The number belongs to an unwanted node or to one below it. -/
def IsTaken (unwanted : Node → Bool) (number : Nat) (nodes : List Node) (i : Nat) : Prop :=
  ∃ entry ∈ numberedFrom number nodes, unwanted entry.1 = true ∧ (spanOf entry).holds i = true

theorem holds_spanOf_iff : (spanOf entry).holds i = true ↔
    entry.2 ≤ i ∧ i < entry.2 + entry.1.size := by
  rw [Span.holds, spanOf, Bool.and_eq_true, decide_eq_true_iff, decide_eq_true_iff]

theorem IsTaken.bounds (h : IsTaken unwanted number nodes i) :
    number ≤ i ∧ i < number + totalSize nodes := by
  obtain ⟨entry, hentry, -, hholds⟩ := h
  rw [holds_spanOf_iff] at hholds
  have hbounds := bounds_of_mem_numberedFrom hentry
  omega

theorem isTaken_cons : IsTaken unwanted number (node :: rest) i ↔
    (unwanted node = true ∧ number ≤ i ∧ i < number + node.size) ∨
      IsTaken unwanted (number + 1) node.children i ∨
      IsTaken unwanted (number + node.size) rest i := by
  simp only [IsTaken, mem_numberedFrom_cons, or_and_right, exists_or, exists_eq_left,
    holds_spanOf_iff]

/-- If exactly the numbers of unwanted nodes and of those below them are gone, the pruned tree is
left. -/
theorem remainingFrom_eq_prune
    (h : ∀ i, number ≤ i → i < number + totalSize nodes →
      (isGone gone i = true ↔ IsTaken unwanted number nodes i)) :
    remainingFrom gone number nodes = prune unwanted nodes := by
  induction nodes using forest_induction generalizing number with
  | nil => rfl
  | cons node rest below ih =>
      -- The numbers of the node, of those below it and of the later ones follow each other, so that
      -- what is taken in one of these ranges stems from that range or from the node itself.
      have hsize := node.size_eq
      rw [totalSize] at h
      simp only [isTaken_cons] at h
      have hnode : isGone gone number = unwanted node := by
        have hbelow : ¬IsTaken unwanted (number + 1) node.children number :=
          mt IsTaken.bounds (by omega)
        have hlater : ¬IsTaken unwanted (number + node.size) rest number :=
          mt IsTaken.bounds (by omega)
        rw [Bool.eq_iff_iff, h number (by omega) (by omega)]
        simp only [hbelow, hlater, or_false]
        exact and_iff_left (by omega)
      have hrest : remainingFrom gone (number + node.size) rest = prune unwanted rest := by
        apply ih
        intro i hlow hhigh
        have hearlier : ¬IsTaken unwanted (number + 1) node.children i :=
          mt IsTaken.bounds (by omega)
        rw [h i (by omega) (by omega)]
        simp only [hearlier, false_or]
        exact or_iff_right (by omega)
      rw [remainingFrom, prune, hnode, hrest, node.remaining_eq, node.pruned_eq]
      cases hunwanted : unwanted node with
      | true => rfl
      | false =>
          have hbelow : remainingFrom gone (number + 1) node.children =
              prune unwanted node.children := by
            apply below
            intro i hlow hhigh
            have hlater : ¬IsTaken unwanted (number + node.size) rest i :=
              mt IsTaken.bounds (by omega)
            rw [h i (by omega) (by omega), hunwanted]
            simp only [hlater, or_false, Bool.false_eq_true, false_and, false_or]
          rw [hbelow]

theorem remainingFrom_reverse_eq_prune (unwanted : Node → Bool) (nodes : List Node) :
    remainingFrom (((numberedFrom 0 nodes).filter (unwanted ·.1)).map spanOf).reverse 0 nodes =
      prune unwanted nodes := by
  apply remainingFrom_eq_prune
  intro i _ _
  simp only [isGone, List.any_reverse, List.any_map, List.any_filter, List.any_eq_true,
    Function.comp_apply, Bool.and_eq_true, IsTaken]

/-- Removing the listed nodes one after the other leaves the pruned tree. -/
theorem removeAll_eq_prune (unwanted : Node → Bool) (nodes : List Node) :
    removeAll unwanted nodes = prune unwanted nodes := by
  rw [removeAll, List.foldl_flip_cons_eq_append, List.append_nil]
  exact remainingFrom_reverse_eq_prune unwanted nodes

/-! ## Nodes that go with others -/

theorem mem_preorder_iff (number : Nat) :
    node ∈ preorder nodes ↔ ∃ i, (node, i) ∈ numberedFrom number nodes := by
  rw [← List.zipIdx_map_fst number (preorder nodes), List.mem_map]
  simp [numberedFrom]

/-- No node of the list takes another one with it exactly if none stands below another. -/
theorem pairwise_numberedFrom_iff {outer inner : Node → Bool} (number : Nat) (nodes : List Node) :
    (numberedFrom number nodes).Pairwise (fun first second => outer first.1 = true →
        inner second.1 = true → (spanOf first).holds second.2 = false) ↔
      ∀ node ∈ preorder nodes, outer node = true →
        ∀ below ∈ node.descendants, inner below = false := by
  induction nodes using forest_induction generalizing number with
  | nil => simp [numberedFrom, preorder]
  | cons node rest below ih =>
      -- Only the nodes below this one have their numbers in its span.
      have hsize := node.size_eq
      have hapart : ∀ first ∈ numberedFrom (number + 1) node.children,
          ∀ second ∈ numberedFrom (number + node.size) rest, outer first.1 = true →
            inner second.1 = true → (spanOf first).holds second.2 = false := by
        intro first hfirst second hsecond _ _
        have hlow := bounds_of_mem_numberedFrom hfirst
        have hhigh := bounds_of_mem_numberedFrom hsecond
        rw [← Bool.not_eq_true, holds_spanOf_iff]
        omega
      have hlater : ∀ second ∈ numberedFrom (number + node.size) rest, outer node = true →
          inner second.1 = true → (spanOf (node, number)).holds second.2 = false := by
        intro second hsecond _ _
        have hhigh := bounds_of_mem_numberedFrom hsecond
        rw [← Bool.not_eq_true, holds_spanOf_iff]
        dsimp only
        omega
      have hbelow : (∀ second ∈ numberedFrom (number + 1) node.children, outer node = true →
          inner second.1 = true → (spanOf (node, number)).holds second.2 = false) ↔
            (outer node = true → ∀ below ∈ node.descendants, inner below = false) := by
        rw [node.descendants_eq]
        constructor
        · intro h houter inside hinside
          obtain ⟨i, hmem⟩ := (mem_preorder_iff (number + 1)).1 hinside
          rw [← Bool.not_eq_true]
          intro hinner
          have hfree := h (inside, i) hmem houter hinner
          have hbounds := bounds_of_mem_numberedFrom hmem
          have hinside := inside.size_eq
          rw [← Bool.not_eq_true, holds_spanOf_iff] at hfree
          dsimp only at hfree hbounds
          omega
        · intro h second hsecond houter hinner
          have hfree := h houter second.1 ((mem_preorder_iff (number + 1)).2 ⟨second.2, hsecond⟩)
          rw [hinner] at hfree
          contradiction
      rw [numberedFrom_cons, List.pairwise_cons, List.pairwise_append, below, ih, preorder,
        List.forall_mem_cons, List.forall_mem_append, List.forall_mem_append, hbelow,
        ← node.descendants_eq]
      constructor
      · rintro ⟨⟨hnode, -⟩, hchildren, hrest, -⟩
        exact ⟨hnode, hchildren, hrest⟩
      · rintro ⟨hnode, hchildren, hrest⟩
        exact ⟨⟨hnode, hlater⟩, hchildren, hrest, hapart⟩

/-! ## Prunings one after the other -/

/-- Nodes are judged by their names and attributes, whatever stands in them. -/
def IsShallow (judged : Node → Bool) : Prop :=
  ∀ children node, judged (node.withChildren children) = judged node

/-- Two prunings one after the other are a single one. -/
theorem prune_prune {first second : Node → Bool} (hsecond : IsShallow second) (nodes : List Node) :
    prune second (prune first nodes) = prune (fun node => first node || second node) nodes := by
  induction nodes using forest_induction with
  | nil => rfl
  | cons node rest below ih =>
      have hjudged : second (node.pruned first) = second node := by
        rw [node.pruned_eq, hsecond]
      have hpruned : (node.pruned first).pruned second =
          node.pruned fun node => first node || second node := by
        cases node with
        | element name attributes children => exact congrArg (Node.element name attributes) below
        | text content => rfl
        | comment content => rfl
      rw [prune, prune]
      cases hfirst : first node with
      | true => simpa using ih
      | false => simp [prune, hjudged, hpruned, ih]

/-! ## Lines -/

mutual

/-- The lines from a node to those below it. -/
def Node.linesBelow : Node → List (List Node)
  | .element name attributes children => (lines children).map (.element name attributes [] :: ·)
  | .text _ => []
  | .comment _ => []

/-- For every node, in document order, the line of nodes that leads to it from the outermost one,
each without what stands in it. -/
def lines : List Node → List (List Node)
  | [] => []
  | node :: rest => [node.withChildren []] :: (node.linesBelow ++ lines rest)

end

theorem Node.linesBelow_eq (node : Node) :
    node.linesBelow = (lines node.children).map (node.withChildren [] :: ·) := by
  cases node <;> rfl

/-- Of the tree exactly those lines are left on which nothing is unwanted. -/
def IsPruned (unwanted : Node → Bool) (nodes kept : List Node) : Prop :=
  lines kept = (lines nodes).filter (·.all (!unwanted ·))

theorem isPruned_prune (h : IsShallow unwanted) (nodes : List Node) :
    IsPruned unwanted nodes (prune unwanted nodes) := by
  rw [IsPruned]
  induction nodes using forest_induction with
  | nil => rfl
  | cons node rest below ih =>
      have hbare : unwanted (node.withChildren []) = unwanted node := h [] node
      rw [prune, lines, node.linesBelow_eq, List.filter_cons, List.filter_append, ← ih,
        List.filter_map]
      cases hunwanted : unwanted node with
      | true =>
          have hnone : (lines node.children).filter
              ((·.all (!unwanted ·)) ∘ (node.withChildren [] :: ·)) = [] := by
            rw [List.filter_eq_nil_iff]
            intro line _
            simp [hbare, hunwanted]
          rw [hnone]
          simp [hbare, hunwanted]
      | false =>
          have hsame : (lines node.children).filter
              ((·.all (!unwanted ·)) ∘ (node.withChildren [] :: ·)) =
                (lines node.children).filter (·.all (!unwanted ·)) := by
            apply List.filter_congr
            intro line _
            simp [hbare, hunwanted]
          rw [hsame, ← below]
          simp [lines, Node.linesBelow_eq, hbare, hunwanted]

/-! ## Trees and their lines -/

theorem Node.eq_of_withChildren_eq {other : Node}
    (hbare : node.withChildren [] = other.withChildren [])
    (hchildren : node.children = other.children) : node = other := by
  cases node <;> cases other <;> simp_all [withChildren, children]

theorem ne_nil_of_mem_lines {line : List Node} (h : line ∈ lines nodes) : line ≠ [] := by
  induction nodes with
  | nil => cases h
  | cons node rest ih =>
      rw [lines, node.linesBelow_eq, List.mem_cons, List.mem_append, List.mem_map] at h
      rcases h with rfl | ⟨inner, -, rfl⟩ | hrest
      · exact List.cons_ne_nil _ _
      · exact List.cons_ne_nil _ _
      · exact ih hrest

/-- The lines below the first node are those that come before the line of the next one, which is a
single node. -/
theorem takeWhile_linesBelow_append (node : Node) (rest : List Node) :
    (node.linesBelow ++ lines rest).takeWhile (1 < ·.length) = node.linesBelow := by
  have hlong : ∀ line ∈ node.linesBelow, decide (1 < line.length) = true := by
    intro line hline
    rw [node.linesBelow_eq, List.mem_map] at hline
    obtain ⟨inner, hinner, rfl⟩ := hline
    have hpos := List.length_pos_iff.2 (ne_nil_of_mem_lines hinner)
    simpa using hpos
  rw [List.takeWhile_append_of_pos hlong]
  cases rest <;> simp [lines]

/-- A tree is known by its lines. -/
theorem eq_of_lines_eq {others : List Node} (h : lines nodes = lines others) : nodes = others := by
  induction nodes using forest_induction generalizing others with
  | nil =>
      cases others with
      | nil => rfl
      | cons other others => cases h
  | cons node rest below ih =>
      cases others with
      | nil => cases h
      | cons other others =>
          rw [lines, lines, List.cons.injEq, List.cons.injEq] at h
          obtain ⟨⟨hbare, -⟩, hlines⟩ := h
          have hbelow : node.linesBelow = other.linesBelow := by
            rw [← takeWhile_linesBelow_append node rest, hlines, takeWhile_linesBelow_append]
          rw [hbelow, List.append_cancel_left_eq] at hlines
          rw [node.linesBelow_eq, other.linesBelow_eq, hbare] at hbelow
          have hchildren : lines node.children = lines other.children :=
            (List.map_inj_right fun _ _ heq => (List.cons.inj heq).2).1 hbelow
          rw [Node.eq_of_withChildren_eq hbare (below hchildren), ih hlines]

/-- There is only one pruned tree. -/
theorem IsPruned.eq {kept others : List Node} (h : IsPruned unwanted nodes kept)
    (hother : IsPruned unwanted nodes others) : kept = others :=
  eq_of_lines_eq (h.trans hother.symm)

end Feuilleton.Document
