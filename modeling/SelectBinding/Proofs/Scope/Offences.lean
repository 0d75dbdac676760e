import SelectBinding.Proofs.Scope.Accepts

/-!
What stops an expression from being resolved.

The three ways in which a node can be wrong say which expressions are resolved. What comes of an
expression that is has no node that is wrong, so resolving it again changes nothing.
-/

namespace SelectBinding

namespace Scope

variable {scope : Scope} {asterisk : Bool} {parent : Option Expr} {e e' : Expr}

lemma allowsAsterisk_iff :
    allowsAsterisk asterisk parent = true ↔
      parent = none ∧ asterisk = true ∨
        ∃ name args, parent = some (.call .aggregate name args) := by
  unfold allowsAsterisk
  split <;> simp_all

/-- No node is wrong when none gives a name, every variable stands for something, and every asterisk
is the expression itself, where this is allowed, or stands directly in an aggregate. -/
lemma offence?_eq_none_iff :
    (∀ node ∈ e.nodes none, scope.offence? asterisk node = none) ↔
      (∀ parent expr name explicitAs, (parent, .underName expr name explicitAs) ∉ e.nodes none) ∧
      (∀ v ∈ e.allVariables, scope.Binds v) ∧
      ∀ parent v, (parent, .var v) ∈ e.nodes none → v.isAsterisk = true →
        e = .var v ∧ asterisk = true ∨ ∃ name args, parent = some (.call .aggregate name args) := by
  constructor
  · intro h
    refine ⟨fun parent expr name explicitAs hmem => ?_, fun v hv => ?_, fun parent v hmem hv => ?_⟩
    · simpa [offence?] using h _ hmem
    · obtain ⟨parent, hmem⟩ := Expr.mem_allVariables_iff.mp hv
      exact (misfit?_eq_none_iff.mp (h _ hmem)).2
    · rcases allowsAsterisk_iff.mp ((misfit?_eq_none_iff.mp (h _ hmem)).1 hv) with
        ⟨rfl, hallowed⟩ | haggregate
      · exact .inl ⟨(Expr.eq_of_mem_nodes_none hmem).symm, hallowed⟩
      · exact .inr haggregate
  · rintro ⟨hnames, hbinds, hasterisks⟩ ⟨parent, node⟩ hmem
    cases node with
    | var v =>
      refine misfit?_eq_none_iff.mpr
        ⟨fun hv => ?_, hbinds v (Expr.mem_allVariables_iff.mpr ⟨parent, hmem⟩)⟩
      rcases hasterisks parent v hmem hv with ⟨rfl, hallowed⟩ | haggregate
      · obtain rfl : parent = none := by simpa [Expr.nodes] using hmem
        exact hallowed
      · exact allowsAsterisk_iff.mpr (.inr haggregate)
    | underName expr name explicitAs => exact absurd hmem (hnames parent expr name explicitAs)
    | _ => rfl

/-- What comes of resolving is resolved again to itself. -/
lemma resolve_idem (h : scope.resolve asterisk e = .ok e') :
    scope.resolve asterisk e' = .ok e' := by
  have hvariables : ∀ v' ∈ e'.allVariables, scope.Binds v' := by
    intro v' hv'
    have hbound := resolve_variables scope asterisk e e' h
    obtain ⟨v, -, b, hb, rfl⟩ := exists_left_of_forall₂ hbound hv'
    exact ⟨b, hb⟩
  obtain ⟨e'', he''⟩ := (resolve_isOk_iff scope asterisk e').mpr
    ⟨resolve_admissible scope asterisk e e' h, hvariables⟩
  -- What a variable stands for does not depend on what it is bound to.
  have hbound : scope.bound ∘ scope.bound = scope.bound := rfl
  rw [he'', eq_mapVariables_of_resolve he'', eq_mapVariables_of_resolve h,
    Expr.mapVariables_mapVariables, hbound]

/-- **Resolving.** An expression is resolved exactly when no node in it gives a name, all of its
variables stand for something, and each asterisk is the expression itself, where that is allowed, or
a direct argument of an aggregate. Then its variables are bound to what they stand for, nothing else
is changed, and resolving it again changes nothing. Otherwise the error is that of the first node
that is wrong, each node coming before its parts and these from left to right. -/
theorem resolve_first_offence (scope : Scope) (asterisk : Bool) (e : Expr) :
    ((∃ e', scope.resolve asterisk e = .ok e') ↔
      (∀ parent expr name explicitAs, (parent, .underName expr name explicitAs) ∉ e.nodes none) ∧
      (∀ v ∈ e.allVariables, ∃ b, scope.bind v = .ok b) ∧
      ∀ parent v, (parent, .var v) ∈ e.nodes none → v.isAsterisk = true →
        e = .var v ∧ asterisk = true ∨ ∃ name args, parent = some (.call .aggregate name args)) ∧
    (∀ e', scope.resolve asterisk e = .ok e' →
      e' = e.mapVariables (fun v => { v with binding := (scope.bind v).toOption }) ∧
        scope.resolve asterisk e' = .ok e') ∧
    ∀ d, scope.resolve asterisk e = .error d ↔
      ∃ before node after, e.nodes none = before ++ node :: after ∧
        scope.offence? asterisk node = some d ∧
        ∀ other ∈ before, scope.offence? asterisk other = none := by
  refine ⟨?_, fun e' h => ⟨eq_mapVariables_of_resolve h, resolve_idem h⟩, fun d => ?_⟩
  · simp only [resolve_eq_unlessFault, unlessFault_ok_iff, exists_and_left, exists_eq', and_true,
      List.findSome?_eq_none_iff]
    exact offence?_eq_none_iff
  · rw [resolve_eq_unlessFault, unlessFault_error_iff, List.findSome?_eq_some_iff]

/-- In `SUM(*) + *` it is the second asterisk that is wrong, whatever the tables are. -/
example (scope : Scope) :
    scope.resolve true
        (.operation (.call .aggregate "SUM" [.var ⟨["*"], some 4, none⟩]) .add
          (.var ⟨["*"], some 9, none⟩)) =
      .error { kind := .grammar, message := "Syntax Error near \"*\"", token := "*",
               position := some 9 } := by
  rfl

end Scope

end SelectBinding
