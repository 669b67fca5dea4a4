import RequestQuery.Proofs.FilterAcceptance

namespace RequestQuery

namespace Predicate

/-- The inner nodes on the way from the root to a leaf. -/
inductive IsBranch : Predicate → List Predicate → Prop
  | leaf {p column} : p.column? = some column → IsBranch p []
  | related {relation inner nodes} : IsBranch inner nodes →
      IsBranch (.related relation inner) (.related relation inner :: nodes)
  | group {c members p nodes} : p ∈ members → IsBranch p nodes →
      IsBranch (.group c members) (.group c members :: nodes)

def isRelated : Predicate → Bool
  | related .. => true
  | _ => false

/-- No branch goes through more inner nodes, or through more existence conditions among them. -/
def IsWithin (r n : Nat) (p : Predicate) : Prop :=
  ∀ nodes, p.IsBranch nodes → nodes.countP isRelated ≤ r ∧ nodes.length ≤ n

variable {r n : Nat} {p : Predicate}

theorem IsWithin.mono {r' n' : Nat} (h : p.IsWithin r n) (hr : r ≤ r') (hn : n ≤ n') :
    p.IsWithin r' n' := by
  intro nodes hnodes
  obtain ⟨hcount, hlength⟩ := h nodes hnodes
  exact ⟨Nat.le_trans hcount hr, Nat.le_trans hlength hn⟩

theorem isWithin_of_column? {column : String} (h : p.column? = some column) : p.IsWithin 0 0 := by
  rintro nodes hnodes
  cases hnodes with
  | leaf => simp
  | related | group => cases h

theorem IsWithin.related (h : p.IsWithin r n) (relation : String) :
    (Predicate.related relation p).IsWithin (r + 1) (n + 1) := by
  rintro nodes hnodes
  cases hnodes with
  | leaf h => cases h
  | related hnodes =>
      obtain ⟨hcount, hlength⟩ := h _ hnodes
      rw [List.countP_cons_of_pos rfl, List.length_cons]
      exact ⟨Nat.succ_le_succ hcount, Nat.succ_le_succ hlength⟩

theorem IsWithin.foldr_related (h : p.IsWithin r n) (path : List String) :
    (path.foldr Predicate.related p).IsWithin (r + path.length) (n + path.length) := by
  induction path with
  | nil => exact h
  | cons relation rest ih => exact ih.related relation

theorem isWithin_group {c : Connective} {members : List Predicate}
    (h : ∀ p ∈ members, p.IsWithin r n) : (group c members).IsWithin r (n + 1) := by
  rintro nodes hnodes
  cases hnodes with
  | leaf h => cases h
  | group hp hnodes =>
      obtain ⟨hcount, hlength⟩ := h _ hp _ hnodes
      rw [List.countP_cons_of_neg (by simp [isRelated]), List.length_cons]
      exact ⟨hcount, Nat.succ_le_succ hlength⟩

theorem isWithin_join {c : Connective} {members : List Predicate}
    (h : ∀ p ∈ members, p.IsWithin r n) : ∀ p ∈ join c members, p.IsWithin r (n + 1) :=
  forall_join (fun _ => isWithin_group h) fun p hp =>
    (h p hp).mono Nat.le.refl (Nat.le_add_right n 1)

end Predicate

namespace FilterContext

variable {ctx : FilterContext}

theorem isWithin_of_evalField {depth : Nat} {f : FieldFilter} {p : Predicate}
    (hkeys : ctx.UsesNoHandler [f]) (h : ctx.evalField depth f = .ok (some p)) :
    p.IsWithin (ctx.snapshot.settings.maxNestingLevel - depth)
      (ctx.snapshot.settings.maxNestingLevel - depth + 1) := by
  obtain ⟨-, path, -, hdepth, inner, hinner, hp⟩ := evalField_eq_ok_iff.mp h
  obtain ⟨q, rfl, rfl⟩ := Option.map_eq_some_iff.mp hp
  have hrelations : path.relations.length ≤ ctx.snapshot.settings.maxNestingLevel - depth := by
    by_cases hnil : path.relations = []
    · simp [hnil]
    · have hle := (checkDepth_eq_ok_iff f.path).mp (hdepth hnil)
      rw [FieldPath.depth] at hle
      omega
  have hq : q.IsWithin 0 1 := by
    obtain ⟨c, leaves, hjoin, hleaves⟩ := applyCondition_eq_ok hinner
    refine Predicate.isWithin_join (n := 0) (fun leaf hleaf => ?_) q hjoin.symm
    rcases hleaves leaf hleaf with rfl | ⟨key, hkey, v, hleaf⟩
    · exact Predicate.isWithin_of_column? rfl
    · exact Predicate.isWithin_of_column?
        (column?_of_applyOperator (hkeys f (by simp) key hkey) hleaf)
  exact (hq.foldr_related path.relations).mono (by omega) (by omega)

theorem isWithin_of_evalNode {depth : Nat} {n : FilterNode} {p : Predicate}
    (hkeys : ctx.UsesNoHandler n.fields) (h : ctx.evalNode depth n = .ok (some p)) :
    p.IsWithin (ctx.snapshot.settings.maxNestingLevel - depth)
      (2 * (ctx.snapshot.settings.maxNestingLevel - depth) + 1) := by
  generalize hmax : ctx.snapshot.settings.maxNestingLevel = max
  -- A group is at an allowed depth, so that each of its levels is left for what is in it.
  refine evalNode_induction (N := fun depth q => q.IsWithin (max - depth) (2 * (max - depth) + 1))
    (G := fun depth q => depth ≤ max ∧ q.IsWithin (max - depth) (2 * (max - depth) + 3))
    ?_ ?_ n depth p ?_ h
  · rintro depth q ⟨hdepth, hq⟩
    exact hq.mono (by omega) (by omega)
  · intro depth c members groups q hdepth hmembers hgroups hq
    rw [checkDepth_eq_ok_iff, hmax] at hdepth
    refine ⟨hdepth, ?_⟩
    refine Predicate.isWithin_join (n := 2 * (max - depth) + 2) ?_ q hq
    rw [List.forall_mem_append]
    refine ⟨fun r hr => ?_, fun r hr => ?_⟩
    · exact Predicate.isWithin_join hmembers r (Option.mem_toList.mp hr)
    · obtain ⟨hdepth, hr⟩ := hgroups r hr
      exact hr.mono (by omega) (by omega)
  · intro f hf depth q hq
    have hwithin := isWithin_of_evalField (hkeys.mono (List.cons_subset.mpr ⟨hf, by simp⟩)) hq
    rw [hmax] at hwithin
    exact hwithin.mono (by omega) (by omega)

/-- On every way from the root of the predicate of a filter to a leaf, there are no more existence
conditions than levels allowed, and no more than two inner nodes for each level, and two. -/
theorem le_maxNestingLevel_of_isBranch {spec : FilterSpec} {p : Predicate} {nodes : List Predicate}
    (hkeys : ctx.UsesNoHandler (FilterSpec.fields spec)) (h : ctx.evaluate spec = .ok (some p))
    (hnodes : p.IsBranch nodes) :
    nodes.countP Predicate.isRelated ≤ ctx.snapshot.settings.maxNestingLevel ∧
      nodes.length ≤ 2 * ctx.snapshot.settings.maxNestingLevel + 2 := by
  obtain ⟨-, members, hmembers, hp⟩ := evaluate_eq_ok h
  refine Predicate.isWithin_join (fun q hq => ?_) p hp.symm nodes hnodes
  obtain ⟨n, hn, hq⟩ := exists_of_mem_evalNodes hmembers hq
  refine isWithin_of_evalNode (hkeys.mono fun f hf => ?_) hq
  rw [FilterSpec.fields_eq_flatMap]
  exact List.mem_flatMap_of_mem hn hf

theorem le_maxNestingLevel_of_isBranch_posts :
    let spec : FilterSpec := [
      .group (.mk .or
        [.group (.mk .and
          [.field ⟨"author.name", .operators .or [("ne", .string "b"), ("like", .string "c")]⟩,
            .field ⟨"id", .literal (.number (.int 1))⟩] [])]
        [.mk .and [.field ⟨"title", .literal .null⟩] []]),
      .field ⟨"title", .literal (.string "a")⟩]
    let operators : Predicate :=
      .group .or [.compare "name" .ne (.string "b"), .pattern "name" .like "%c%" false]
    let author : Predicate := .related "author" operators
    let inner : Predicate := .group .and [author, .compare "id" .eq (.number (.int 1))]
    let outer : Predicate := .group .or [inner, .null "title" false]
    let p : Predicate := .group .and [outer, .compare "title" .eq (.string "a")]
    let nodes := [p, outer, inner, author, operators]
    FilterContext.posts.UsesNoHandler (FilterSpec.fields spec) ∧
      FilterContext.posts.evaluate spec = .ok (some p) ∧ p.IsBranch nodes ∧
      nodes.countP Predicate.isRelated ≤ 3 ∧ nodes.length ≤ 2 * 3 + 2 := by
  intro spec operators author inner outer p nodes
  have hkeys : FilterContext.posts.UsesNoHandler (FilterSpec.fields spec) := by decide
  have h : FilterContext.posts.evaluate spec = .ok (some p) := by rfl
  have hauthor : author.IsBranch [author, operators] :=
    .related (.group List.mem_cons_self (.leaf rfl))
  have hinner : inner.IsBranch [inner, author, operators] := .group List.mem_cons_self hauthor
  have hnodes : p.IsBranch nodes :=
    .group List.mem_cons_self (.group List.mem_cons_self hinner)
  exact ⟨hkeys, h, hnodes, le_maxNestingLevel_of_isBranch hkeys h hnodes⟩

end FilterContext

end RequestQuery
