import RequestQuery.Proofs.StatementText
import RequestQuery.Proofs.TokenInduction

namespace RequestQuery

open Statement

namespace Predicate

mutual

/-- The names in a condition on the rows of `m`, which are named `scope` and stand inside `depth`
subqueries. -/
def names (catalog : Catalog) (m : Model) (scope : String) (depth : Nat) : Predicate → List String
  | compare column .. | pattern column .. | between column .. | null column _ => [scope, column]
  | member _ [] _ => []
  | member column (_ :: _) _ => [scope, column]
  | related relation inner =>
    match catalog.related? m relation with
    | none => []
    | some (r, target) =>
      let inside := aliasFor relation (depth + 1)
      [target.table, inside, r.relatedColumn, scope, r.parentColumn] ++
        names catalog target inside (depth + 1) inner
  | group _ members => namesOf catalog m scope depth members

def namesOf (catalog : Catalog) (m : Model) (scope : String) (depth : Nat) :
    List Predicate → List String
  | [] => []
  | p :: rest => names catalog m scope depth p ++ namesOf catalog m scope depth rest

end

theorem namesOf_eq_flatMap (catalog : Catalog) (m : Model) (scope : String) (depth : Nat)
    (members : List Predicate) :
    namesOf catalog m scope depth members = members.flatMap (names catalog m scope depth) := by
  induction members with
  | nil => rfl
  | cons p rest ih => rw [namesOf, ih, List.flatMap_cons]

end Predicate

namespace Query

def joinedNames (source : Source) (conditions : List (Connective × Predicate)) : List String :=
  conditions.flatMap fun c => c.2.names source.catalog source.model source.model.table 0

/-- The names in the statement of a query. -/
def names (q : Query) : List String :=
  q.source.model.table :: joinedNames q.source q.conditions ++ q.orders.map OrderKey.column

/-- The counts of rows in the statement of a query. -/
def rowCounts (q : Query) : List String :=
  (q.limit.toList ++ q.offset.toList).map toString

end Query

namespace Statement

/-- The words of conditions that are not identifiers. -/
def vocabulary : List String :=
  ["=", "!=", ">", ">=", "<", "<=", "NOT LIKE", "NOT ILIKE", "NOT IN", "NOT BETWEEN", "IS NULL",
    "IS NOT NULL", "0", "1", "'\\'"]

/-- A token is known if a condition may contain it. -/
def Token.isKnown : Token → Bool
  | .word s => Text.isIdentifier s || s ∈ vocabulary
  | _ => true

def conditionWords : List String :=
  vocabulary ++ ["LIKE", "ILIKE", "IN", "BETWEEN", "ESCAPE", "AND", "OR", "EXISTS", "SELECT",
    "FROM", "WHERE"]

/-- The words that all statements have in common. -/
def fixedWords : List String :=
  conditionWords ++ ["*", "ORDER", "BY", "ASC", "DESC", "LIMIT", "OFFSET", "-1"]

/-- A word is one of the given names or fixed words. -/
def Token.IsAmong (names fixed : List String) : Token → Prop
  | .word s => s ∈ names ∨ s ∈ fixed
  | _ => True

theorem Token.IsAmong.mono {names more fixed words : List String} (hnames : names ⊆ more)
    (hfixed : fixed ⊆ words) {t : Token} (h : t.IsAmong names fixed) : t.IsAmong more words := by
  cases t with
  | word s => exact h.imp (fun hs => hnames hs) fun hs => hfixed hs
  | _ => trivial

theorem isKnown_of_isAmong {names : List String}
    (hnames : ∀ name ∈ names, Text.isIdentifier name = true) {t : Token}
    (h : t.IsAmong names conditionWords) : t.isKnown = true := by
  cases t with
  | word s =>
      have hconditionWords : ∀ s ∈ conditionWords, (Token.word s).isKnown = true := by decide
      rcases h with hname | hfixed
      · rw [Token.isKnown, hnames s hname, Bool.true_or]
      · exact hconditionWords s hfixed
  | _ => rfl

theorem forall_mem_separated {P : Token → Prop} {separator : Token} (hseparator : P separator)
    {parts : List (List Token)} (h : ∀ part ∈ parts, ∀ t ∈ part, P t) :
    ∀ t ∈ separated separator parts, P t := by
  match parts with
  | [] => simp [separated]
  | [part] => simpa [separated] using h
  | part :: next :: rest =>
      rw [List.forall_mem_cons] at h
      rw [separated, List.forall_mem_append, List.forall_mem_cons]
      · exact ⟨h.1, hseparator, forall_mem_separated hseparator h.2⟩
      · simp

variable {names fixed : List String}

theorem isAmong_fixed {s : String} (h : s ∈ fixed) : (Token.word s).IsAmong names fixed :=
  .inr h

theorem isAmong_operator (op : StoreOperator) :
    (Token.word op.token).IsAmong names conditionWords := by
  cases op <;> exact isAmong_fixed (by decide)

theorem isAmong_keyword (c : Connective) : (Token.word c.keyword).IsAmong names conditionWords := by
  cases c <;> exact isAmong_fixed (by decide)

theorem isAmong_direction (d : Direction) : (Token.word d.keyword).IsAmong names fixedWords := by
  cases d <;> exact isAmong_fixed (by decide)

theorem isAmong_constant (holds : Bool) : ∀ t ∈ constant holds, t.IsAmong names conditionWords := by
  simp only [constant, List.forall_mem_cons]
  refine ⟨isAmong_fixed (by decide), isAmong_fixed (by decide), isAmong_fixed ?_, by simp⟩
  cases holds <;> decide

theorem isAmong_column {table name : String} (htable : table ∈ names) (hname : name ∈ names) :
    ∀ t ∈ column table name, t.IsAmong names fixed := by
  simp only [column, List.forall_mem_cons]
  exact ⟨.inl htable, trivial, .inl hname, by simp⟩

theorem isAmong_patternTokens {scope name : String} (hscope : scope ∈ names) (hname : name ∈ names)
    (op : StoreOperator) (text : String) (caseInsensitive : Bool) :
    ∀ t ∈ patternTokens scope name op text caseInsensitive, t.IsAmong names conditionWords := by
  have hcolumn : ∀ t ∈ column scope name, t.IsAmong names conditionWords :=
    isAmong_column hscope hname
  have hescape : ∀ t ∈ escapeClause, t.IsAmong names conditionWords := by
    simp only [escapeClause, List.forall_mem_cons]
    exact ⟨isAmong_fixed (by decide), isAmong_fixed (by decide), by simp⟩
  unfold patternTokens
  split
  · simp only [List.forall_mem_append, List.forall_mem_cons, List.cons_append]
    exact ⟨trivial, ⟨hcolumn, trivial, isAmong_operator op, trivial, trivial, trivial, by simp⟩,
      hescape⟩
  · simp only [List.forall_mem_append, List.forall_mem_cons]
    exact ⟨⟨hcolumn, isAmong_operator op, trivial, by simp⟩, hescape⟩

end Statement

namespace Predicate

variable {catalog : Catalog} {m : Model} {scope : String} {depth : Nat} {p : Predicate}

theorem isAmong_tokens {ts : List Token} (h : p.tokens catalog m scope depth = .ok ts) :
    ∀ t ∈ ts, t.IsAmong (p.names catalog m scope depth) conditionWords := by
  refine tokens_induction (motive := fun m scope depth p ts =>
      ∀ t ∈ ts, t.IsAmong (p.names catalog m scope depth) conditionWords) h
    ?compare ?pattern ?memberNone ?member ?between ?null ?related ?groupNone ?group
  case compare =>
    intro m scope depth name op value
    simp only [names, List.forall_mem_append, List.forall_mem_cons]
    exact ⟨isAmong_column (by simp) (by simp), isAmong_operator op, trivial, by simp⟩
  case pattern =>
    intro m scope depth name op text caseInsensitive
    exact isAmong_patternTokens (by simp [names]) (by simp [names]) op text caseInsensitive
  case memberNone =>
    intro m scope depth name negated
    exact isAmong_constant negated
  case member =>
    intro m scope depth name values negated hvalues
    have hnames : (member name values negated).names catalog m scope depth = [scope, name] := by
      cases values with
      | nil => exact absurd rfl hvalues
      | cons v rest => rfl
    have hitems : ∀ part ∈ values.map fun v => [Statement.bind v], ∀ t ∈ part,
        t.IsAmong [scope, name] conditionWords := by
      simp [Statement.bind, Token.IsAmong]
    have hcomma : Token.comma.IsAmong [scope, name] conditionWords := trivial
    rw [hnames]
    simp only [List.forall_mem_append, List.forall_mem_cons]
    exact ⟨⟨⟨isAmong_column (by simp) (by simp), isAmong_operator _, trivial, by simp⟩,
      forall_mem_separated hcomma hitems⟩, trivial, by simp⟩
  case between =>
    intro m scope depth name low high negated
    simp only [names, List.forall_mem_append, List.forall_mem_cons]
    exact ⟨isAmong_column (by simp) (by simp), isAmong_operator _, trivial,
      isAmong_keyword .and, trivial, by simp⟩
  case null =>
    intro m scope depth name negated
    simp only [names, List.forall_mem_append, List.forall_mem_cons]
    exact ⟨isAmong_column (by simp) (by simp), isAmong_operator _, by simp⟩
  case related =>
    intro m scope depth relation inner r target ts hrelated ih
    simp only [names, hrelated, existsTokens, List.forall_mem_append, List.forall_mem_cons]
    refine ⟨⟨⟨⟨⟨⟨?_, ?_⟩, ?_⟩, ?_⟩, ?_⟩, fun t ht => ?_⟩, trivial, by simp⟩
    · exact ⟨isAmong_fixed (by decide), trivial, isAmong_fixed (by decide),
        isAmong_fixed (by decide), isAmong_fixed (by decide), .inl (by simp), .inl (by simp),
        isAmong_fixed (by decide), by simp⟩
    · exact isAmong_column (by simp) (by simp)
    · exact ⟨isAmong_fixed (by decide), by simp⟩
    · exact isAmong_column (by simp) (by simp)
    · exact ⟨isAmong_fixed (by decide), by simp⟩
    · exact (ih t ht).mono (List.subset_append_right _ _) fun _ hs => hs
  case groupNone =>
    intro m scope depth c
    exact isAmong_constant (c == .and)
  case group =>
    intro m scope depth c members parts _ hparts
    have hmembers : ∀ part ∈ parts, ∀ t ∈ part,
        t.IsAmong ((group c members).names catalog m scope depth) conditionWords := by
      intro part hpart t ht
      obtain ⟨q, hq, ih⟩ := exists_of_mem_traversal hparts hpart
      rw [names, namesOf_eq_flatMap]
      refine (ih t ht).mono (fun name hname => ?_) fun _ hs => hs
      exact List.mem_flatMap.mpr ⟨q, hq, hname⟩
    simp only [List.forall_mem_append, List.forall_mem_cons, List.cons_append]
    exact ⟨trivial, forall_mem_separated (isAmong_keyword c) hmembers, trivial, by simp⟩

theorem isIdentifier_of_mem_names (hmodels : ∀ e ∈ catalog.models, e.2.HasIdentifiers)
    (hm : m.HasIdentifiers) (hscope : Text.isIdentifier scope = true)
    (hp : p.Every HasIdentifier) :
    ∀ name ∈ p.names catalog m scope depth, Text.isIdentifier name = true := by
  induction p generalizing m scope depth with
  | compare | pattern | between | null =>
      simp only [names, List.forall_mem_cons]
      exact ⟨hscope, hp, by simp⟩
  | member column values negated =>
      cases values with
      | nil => simp [names]
      | cons v rest =>
          simp only [names, List.forall_mem_cons]
          exact ⟨hscope, hp, by simp⟩
  | related relation inner ih =>
      rw [names]
      split
      · simp
      · rename_i r target hrelated
        obtain ⟨hr, htarget⟩ := Catalog.mem_of_related? hrelated
        obtain ⟨hrelatedColumn, hparentColumn⟩ := Relation.isIdentifier_columns (hm.keys _ hr)
        -- The alias of the subquery is the scope of the condition inside it.
        have hinside := isIdentifier_aliasFor hp.1 (depth + 1)
        simp only [List.forall_mem_append, List.forall_mem_cons]
        exact ⟨⟨(hmodels _ htarget).table, hinside, hrelatedColumn, hscope, hparentColumn,
          by simp⟩, ih (hmodels _ htarget) hinside hp.2⟩
  | group c members ih =>
      rw [names, namesOf_eq_flatMap]
      intro name hname
      obtain ⟨q, hq, hname⟩ := List.mem_flatMap.mp hname
      exact ih q hq hm hscope ((every_group.mp hp).2 q hq) name hname

end Predicate

namespace Query

variable {q : Query} {ts : List Token}

theorem isAmong_joinedTokens {source : Source} {conditions : List (Connective × Predicate)}
    (h : joinedTokens source conditions = .ok ts) :
    ∀ t ∈ ts, t.IsAmong (joinedNames source conditions) conditionWords := by
  refine joinedTokens_induction (motive := fun conditions ts => ∀ t ∈ ts,
    t.IsAmong (joinedNames source conditions) conditionWords) h (by simp) ?_
  intro c p rest ts more hts ih
  rw [List.forall_mem_append, List.forall_mem_cons, joinedNames, List.flatMap_cons]
  refine ⟨⟨isAmong_keyword c, fun t ht => ?_⟩, fun t ht => ?_⟩
  · exact (Predicate.isAmong_tokens hts t ht).mono (List.subset_append_left _ _) fun _ hs => hs
  · exact (ih t ht).mono (List.subset_append_right _ _) fun _ hs => hs

theorem isAmong_conditionTokens (h : q.conditionTokens = .ok ts) :
    ∀ t ∈ ts, t.IsAmong (joinedNames q.source q.conditions) conditionWords := by
  obtain ⟨joined, hjoined, rfl⟩ := map_eq_ok_iff.mp h
  intro t ht
  exact isAmong_joinedTokens hjoined t (List.mem_of_mem_drop ht)

theorem isAmong_orderTokens (q : Query) :
    ∀ t ∈ q.orderTokens, t.IsAmong q.names fixedWords := by
  unfold orderTokens
  split
  · simp
  · simp only [List.forall_mem_append, List.forall_mem_cons]
    refine ⟨⟨isAmong_fixed (by decide), isAmong_fixed (by decide), by simp⟩,
      forall_mem_separated trivial fun part hpart => ?_⟩
    obtain ⟨key, hkey, rfl⟩ := List.mem_map.mp hpart
    have htable : q.source.model.table ∈ q.names := by simp [names]
    have hcolumn : key.column ∈ q.names := List.mem_append_right _ (List.mem_map_of_mem hkey)
    rw [List.forall_mem_append, List.forall_mem_singleton]
    exact ⟨isAmong_column htable hcolumn, isAmong_direction _⟩

theorem isAmong_windowTokens (q : Query) :
    ∀ t ∈ q.windowTokens, t.IsAmong q.rowCounts fixedWords := by
  have hlimit {n : Nat} (h : q.limit = some n) :
      (Token.word (toString n)).IsAmong q.rowCounts fixedWords :=
    .inl (by simp [rowCounts, h])
  have hoffset {n : Nat} (h : q.offset = some n) :
      (Token.word (toString n)).IsAmong q.rowCounts fixedWords :=
    .inl (by simp [rowCounts, h])
  unfold windowTokens
  split
  · simp
  · simp only [List.forall_mem_cons]
    exact ⟨isAmong_fixed (by decide), hlimit ‹_›, by simp⟩
  · simp only [List.forall_mem_cons]
    exact ⟨isAmong_fixed (by decide), hlimit ‹_›, isAmong_fixed (by decide), hoffset ‹_›, by simp⟩
  · split
    · simp only [List.forall_mem_cons]
      exact ⟨isAmong_fixed (by decide), isAmong_fixed (by decide), isAmong_fixed (by decide),
        hoffset ‹_›, by simp⟩
    · simp only [List.forall_mem_cons]
      exact ⟨isAmong_fixed (by decide), hoffset ‹_›, by simp⟩

theorem isAmong_statementTokens (h : q.statementTokens = .ok ts) :
    ∀ t ∈ ts, t.IsAmong (q.names ++ q.rowCounts) fixedWords := by
  obtain ⟨conditions, hconditions, rfl⟩ := map_eq_ok_iff.mp h
  have htable : q.source.model.table ∈ q.names ++ q.rowCounts := by simp [names]
  have hrows : ∀ t ∈ rowTokens q.source.model.table,
      t.IsAmong (q.names ++ q.rowCounts) fixedWords := by
    simp only [rowTokens, column, List.forall_mem_append, List.forall_mem_cons]
    exact ⟨⟨⟨isAmong_fixed (by decide), by simp⟩,
      .inl htable, trivial, isAmong_fixed (by decide), by simp⟩,
      isAmong_fixed (by decide), .inl htable, by simp⟩
  have hwhere : ∀ t ∈ whereTokens conditions, t.IsAmong (q.names ++ q.rowCounts) fixedWords := by
    unfold whereTokens
    split
    · simp
    · rw [List.forall_mem_cons]
      refine ⟨isAmong_fixed (by decide), fun t ht => ?_⟩
      refine (isAmong_conditionTokens hconditions t ht).mono (fun s hs => ?_)
        (List.subset_append_left _ _)
      simp only [names, List.mem_append, List.mem_cons]
      exact .inl (.inl (.inr hs))
  rw [List.forall_mem_append, List.forall_mem_append, List.forall_mem_append]
  refine ⟨⟨⟨hrows, hwhere⟩, fun t ht => ?_⟩, fun t ht => ?_⟩
  · exact (isAmong_orderTokens q t ht).mono (List.subset_append_left _ _) fun _ hs => hs
  · exact (isAmong_windowTokens q t ht).mono (List.subset_append_right _ _) fun _ hs => hs

theorem isIdentifier_of_mem_joinedNames {source : Source} (hsource : source.HasIdentifiers)
    {conditions : List (Connective × Predicate)}
    (hconditions : ∀ c ∈ conditions, c.2.Every Predicate.HasIdentifier) :
    ∀ name ∈ joinedNames source conditions, Text.isIdentifier name = true := by
  intro name hname
  obtain ⟨c, hc, hname⟩ := List.mem_flatMap.mp hname
  exact Predicate.isIdentifier_of_mem_names hsource.models hsource.root hsource.root.table
    (hconditions c hc) name hname

theorem isIdentifier_of_mem_names (hsource : q.source.HasIdentifiers)
    (hconditions : ∀ c ∈ q.conditions, c.2.Every Predicate.HasIdentifier)
    (horders : ∀ key ∈ q.orders, Text.isIdentifier key.column = true) :
    ∀ name ∈ q.names, Text.isIdentifier name = true := by
  simp only [names, List.forall_mem_append, List.forall_mem_cons, List.forall_mem_map]
  exact ⟨⟨hsource.root.table, isIdentifier_of_mem_joinedNames hsource hconditions⟩, horders⟩

theorem isKnown_conditionTokens (hsource : q.source.HasIdentifiers)
    (hconditions : ∀ c ∈ q.conditions, c.2.Every Predicate.HasIdentifier)
    (h : q.conditionTokens = .ok ts) : ∀ t ∈ ts, t.isKnown = true := by
  intro t ht
  exact isKnown_of_isAmong (isIdentifier_of_mem_joinedNames hsource hconditions)
    (isAmong_conditionTokens h t ht)

end Query

end RequestQuery
