import ScriptLint.Pattern.Parser
import ScriptLint.Proofs.Cascade.WellFormed
import ScriptLint.Proofs.Lexical.Tally
import ScriptLint.Proofs.Registry.History
import ScriptLint.Proofs.Rules.QuoteStyle
import ScriptLint.Syntax.Build

/-!
# Built-in rules do not fail

A built-in rule can be created exactly with the options that it accepts, and policies
that come out of a resolution have no other options.  Once created, all built-in
rules but the one on quotes are regular.  So the only failure that an evaluation can
report is that of the rule on quotes, at the first string literal without a source text.
-/

namespace ScriptLint

/-! ## Creation -/

namespace Rule

/-- A rule that can be created exactly with the options that it accepts, and with none. -/
structure Honours (rule : Rule) : Prop where
  creates_iff : ∀ options,
    (∃ state, rule.create options = .ok state) ↔ rule.validate options = .ok ()
  acceptsNone : rule.validate [] = .ok ()

theorem created_eq_ok_iff {σ τ : Type} {settings : Except OptionsError σ} {start : σ → τ}
    {state : τ} : created settings start = .ok state ↔
      ∃ value, settings = .ok value ∧ start value = state := by
  cases settings <;> simp [created]

theorem validated_eq_ok_iff {σ : Type} {settings : Except OptionsError σ} :
    validated settings = .ok () ↔ ∃ value, settings = .ok value := by
  cases settings <;> simp [validated, Except.map]

theorem validated_unit (settings : Except OptionsError Unit) : validated settings = settings := by
  cases settings <;> rfl

theorem Honours.of_settings {rule : Rule} {σ : Type}
    (settings : List Value → Except OptionsError σ) {start : σ → rule.State}
    (creates : ∀ options, rule.create options = created (settings options) start)
    (validates : ∀ options, rule.validate options = validated (settings options))
    {default : σ} (acceptsNone : settings [] = .ok default) : rule.Honours where
  creates_iff options := by
    rw [validates, validated_eq_ok_iff, creates]
    simp only [created_eq_ok_iff]
    constructor
    · rintro ⟨_, value, isValue, -⟩
      exact ⟨value, isValue⟩
    · rintro ⟨value, isValue⟩
      exact ⟨start value, value, isValue, rfl⟩
  acceptsNone := by
    rw [validates, acceptsNone]
    rfl

theorem Honours.of_atMost {rule : Rule} {start : Unit → rule.State}
    (creates : ∀ options, rule.create options = created (RuleOptions.atMost options 0) start)
    (validates : ∀ options, rule.validate options = RuleOptions.atMost options 0) :
    rule.Honours :=
  .of_settings (RuleOptions.atMost · 0) creates
    (fun options => (validates options).trans (validated_unit _).symm) rfl

end Rule

namespace Rules

variable {engine : PatternEngine}

theorem honours_of_mem_builtIn {rule : Rule} (member : rule ∈ builtIn engine) :
    rule.Honours := by
  simp only [builtIn, List.mem_cons, List.not_mem_nil, or_false] at member
  rcases member with rfl | rfl | rfl | rfl | rfl | rfl | rfl | rfl | rfl | rfl | rfl | rfl
  · exact .of_settings StatementTerminator.settings (fun _ => rfl) (fun _ => rfl) rfl
  · exact .of_settings QuoteStyle.settings (fun _ => rfl) (fun _ => rfl) rfl
  · exact .of_settings NoConsole.settings (fun _ => rfl) (fun _ => rfl) rfl
  · exact .of_atMost (fun _ => rfl) (fun _ => rfl)
  · exact .of_atMost (fun _ => rfl) (fun _ => rfl)
  · exact .of_settings NoGlobalAssign.settings (fun _ => rfl) (fun _ => rfl) rfl
  · exact .of_settings (NoUnusedVars.settings engine) (fun _ => rfl) (fun _ => rfl) rfl
  · exact .of_atMost (fun _ => rfl) (fun _ => rfl)
  · exact .of_atMost (fun _ => rfl) (fun _ => rfl)
  · exact .of_atMost (fun _ => rfl) (fun _ => rfl)
  · exact .of_settings (Camelcase.settings engine) (fun _ => rfl) (fun _ => rfl) rfl
  · exact .of_settings StrictEquality.settings (fun _ => rfl) (fun _ => rfl) rfl

/-! ## Regularity -/

theorem StatementTerminator.code_ne (mode : Mode) (node : Node) :
    ∀ finding ∈ findings mode node, finding.code ≠ "rule_internal_error" := by
  unfold findings
  split <;> simp

theorem StatementTerminator.isRegular : rule.IsRegular where
  enter mode _ node := .report mode (code_ne mode node)
  exit _ _ _ := .quiet _
  finish _ _ := .quiet _

theorem NoConsole.isRegular : rule.IsRegular where
  enter _ _ _ := .quiet _
  exit _ _ _ := .quiet _
  finish state _ := .report_map state _ fun _ => by simp

theorem NoDebugger.isRegular : rule.IsRegular where
  enter state _ node := .report_map state [node] fun _ => by simp [finding]
  exit _ _ _ := .quiet _
  finish _ _ := .quiet _

theorem NoUndef.isRegular : rule.IsRegular where
  enter _ _ _ := .quiet _
  exit _ _ _ := .quiet _
  finish tracker _ := .report_map tracker _ fun _ => by simp

theorem NoGlobalAssign.isRegular : rule.IsRegular where
  enter _ _ _ := .quiet _
  exit _ _ _ := .quiet _
  finish state _ := .report_map state _ fun _ => by simp

theorem NoUnusedVars.isRegular : (rule engine).IsRegular where
  enter _ _ _ := .quiet _
  exit _ _ _ := .quiet _
  finish state _ := .report_map state _ fun usage => by cases usage.binding.kind <;> simp [code]

theorem NoVar.code_ne (context : Context) (node : Node) :
    ∀ finding ∈ findings context node, finding.code ≠ "rule_internal_error" := by
  unfold findings
  split <;> simp

theorem NoVar.isRegular : rule.IsRegular where
  enter state context node := .report state (code_ne context node)
  exit _ _ _ := .quiet _
  finish _ _ := .quiet _

theorem PreferConst.code_ne (tracker : Lexical.Tracker) (version : SyntaxVersion) :
    ∀ finding ∈ findings tracker version, finding.code ≠ "rule_internal_error" := by
  unfold findings
  split
  · exact List.forall_mem_map.mpr fun _ _ => by simp
  · simp

theorem PreferConst.isRegular : rule.IsRegular where
  enter _ _ _ := .quiet _
  exit _ _ _ := .quiet _
  finish tracker surroundings :=
    .report tracker (code_ne tracker surroundings.capabilities.syntaxVersion)

theorem PreferTemplate.code_ne (context : Context) (node : Node) :
    ∀ finding ∈ findings context node, finding.code ≠ "rule_internal_error" := by
  unfold findings
  split <;> simp

theorem PreferTemplate.isRegular : rule.IsRegular where
  enter state context node := .report state (code_ne context node)
  exit _ _ _ := .quiet _
  finish _ _ := .quiet _

theorem Camelcase.code_ne (settings : Settings engine) (context : Context) (node : Node) :
    ∀ finding ∈ findings settings context node, finding.code ≠ "rule_internal_error" := by
  unfold findings
  split
  · simp
  · split <;> simp

theorem Camelcase.isRegular : (rule engine).IsRegular where
  enter settings context node := .report settings (code_ne settings context node)
  exit _ _ _ := .quiet _
  finish _ _ := .quiet _

theorem StrictEquality.code_ne (settings : Settings) (node : Node) :
    ∀ finding ∈ findings settings node, finding.code ≠ "rule_internal_error" := by
  unfold findings
  split
  · split <;> simp
  · simp

theorem StrictEquality.isRegular : rule.IsRegular where
  enter settings _ node := .report settings (code_ne settings node)
  exit _ _ _ := .quiet _
  finish _ _ := .quiet _

theorem isRegular_of_mem_builtIn {rule : Rule} (member : rule ∈ builtIn engine) :
    rule = QuoteStyle.rule ∨ rule.IsRegular := by
  simp only [builtIn, List.mem_cons, List.not_mem_nil, or_false] at member
  rcases member with rfl | rfl | rfl | rfl | rfl | rfl | rfl | rfl | rfl | rfl | rfl | rfl
  · exact .inr StatementTerminator.isRegular
  · exact .inl rfl
  · exact .inr NoConsole.isRegular
  · exact .inr NoDebugger.isRegular
  · exact .inr NoUndef.isRegular
  · exact .inr NoGlobalAssign.isRegular
  · exact .inr NoUnusedVars.isRegular
  · exact .inr NoVar.isRegular
  · exact .inr PreferConst.isRegular
  · exact .inr PreferTemplate.isRegular
  · exact .inr Camelcase.isRegular
  · exact .inr StrictEquality.isRegular

end Rules

/-! ## Policies for the built-in rules -/

variable {engine : PatternEngine}

namespace Registry

theorem rules_builtIn :
    (builtIn engine).rules = (Rules.builtIn engine).map (RegisteredRule.of none) :=
  Registration.rules_foldl_add none (Rules.builtIn engine) _

theorem of_mem_rules_builtIn {rule : Rule} (member : rule ∈ Rules.builtIn engine) :
    RegisteredRule.of none rule ∈ (builtIn engine).rules := by
  rw [rules_builtIn]
  exact List.mem_map_of_mem member

theorem mem_rules_builtIn {registered : RegisteredRule}
    (member : registered ∈ (builtIn engine).rules) :
    registered.rule ∈ Rules.builtIn engine ∧ registered.id = registered.rule.name ∧
      registered.plugin = none := by
  rw [rules_builtIn, List.mem_map] at member
  obtain ⟨rule, isRule, rfl⟩ := member
  exact ⟨isRule, rfl, rfl⟩

end Registry

theorem Policy.WellFormed.created {policy : Policy}
    (wellFormed : policy.WellFormed (.builtIn engine)) {registered : RegisteredRule}
    (member : registered ∈ (Registry.builtIn engine).rules)
    {binding : RuleBinding} (enabled : policy.activeBinding? registered.id = some binding) :
    ∃ state, registered.rule.create binding.options = .ok state := by
  have bound : policy.rules.get? registered.id = some binding := by
    rw [Policy.activeBinding?, Option.filter_eq_some_iff] at enabled
    exact enabled.1
  have honours := Rules.honours_of_mem_builtIn (Registry.mem_rules_builtIn member).1
  obtain ⟨other, found, same, accepts⟩ := wellFormed.accepted registered.id binding bound
  obtain rfl := Layer.eq_of_id_eq Registry.Reachable.builtIn.placed
    (Registry.mem_rules_of_get? found) member same
  rw [honours.creates_iff]
  rcases accepts with none | accepted
  · rw [none]
    exact honours.acceptsNone
  · exact accepted

namespace Registry

variable {policy : Policy}

theorem ruleId_of_isInternal (wellFormed : policy.WellFormed (builtIn engine)) {root : Node}
    {diagnostic : Diagnostic} (reported : diagnostic ∈ (builtIn engine).findings policy root)
    (internal : diagnostic.isInternal = true) : diagnostic.ruleId = "quote-style" := by
  obtain ⟨registered, member, own, binding, enabled⟩ := exists_enabled_of_mem_findings reported
  obtain ⟨isRule, isName, -⟩ := mem_rules_builtIn member
  rcases Rules.isRegular_of_mem_builtIn isRule with isQuoteStyle | regular
  · rw [← own, isName, isQuoteStyle]
    rfl
  · obtain ⟨state, created⟩ := wellFormed.created member enabled
    have ordinary := not_isInternal_of_isRegular .builtIn member enabled regular created
      reported own
    rw [ordinary] at internal
    cases internal

theorem filter_isInternal_findings (wellFormed : policy.WellFormed (builtIn engine)) (root : Node) :
    ((builtIn engine).findings policy root).filter Diagnostic.isInternal =
      (((builtIn engine).findings policy root).filter (Diagnostic.ofRule "quote-style")).filter
        Diagnostic.isInternal := by
  rw [List.filter_filter]
  apply List.filter_congr
  intro diagnostic reported
  cases internal : diagnostic.isInternal with
  | true => simp [Diagnostic.ofRule, ruleId_of_isInternal wellFormed reported internal]
  | false => rfl

end Registry

namespace Resolution

open Rules

/--
The built-in rules under a policy that a resolution comes to.  They can be created
with the options that they accept and with no others, and none is given others.  The
only failure reported on a tree is that of the rule on quotes, if it is enabled, at the
first string literal without a source text; up to there, or to the end of a tree without
such literals, the rule reports on the nodes that it flags, and on nothing afterwards.
Nor is there a failure behind the rules on names, with a tracker that keeps scopes and
bindings in tables: all numbers that it goes by have entries, and it counts the same uses.
-/
theorem evaluate_fails_only_on_missing_text {sources : Sources} {name : String}
    {document : PolicyDocument} {overrides : Overrides} {resolution : Resolution}
    (succeeds : resolve (.builtIn engine) sources name document overrides = .ok resolution)
    (tree : SyntaxTree) :
    let policy := resolution.policy
    let report := (Registry.builtIn engine).evaluate policy tree
    let failures := report.diagnostics.filter Diagnostic.isInternal
    let quotes := report.diagnostics.filter fun diagnostic =>
      !diagnostic.isInternal && Diagnostic.ofRule "quote-style" diagnostic
    (∀ rule ∈ builtIn engine, rule.Honours) ∧
      (∀ registered ∈ (Registry.builtIn engine).rules, ∀ binding,
        policy.activeBinding? registered.id = some binding →
          ∃ state, registered.rule.create binding.options = .ok state) ∧
      (policy.activeBinding? "quote-style" = none → failures = [] ∧ quotes = []) ∧
      (∀ binding, policy.activeBinding? "quote-style" = some binding →
        ∃ settings, QuoteStyle.settings binding.options = .ok settings ∧
          failures = ((tree.root.nodes.find? QuoteStyle.lacksText).map fun node =>
            Diagnostic.stamped tree.path
              { ruleId := "quote-style", code := "rule_internal_error", severity := .blocking
                message := "Rule 'quote-style' failed: string literal without raw text"
                position := node.startPosition, fingerprint := none }).toList ∧
          quotes = (FileReport.ofDiagnostics tree.path
            (((tree.root.nodes.takeWhile fun node => !QuoteStyle.lacksText node).filter
              (QuoteStyle.isFlagged settings)).map fun node =>
                { ruleId := "quote-style", code := "wrong_quotes", severity := binding.severity
                  message := s!"Strings must use {settings.quote.description}."
                  position := node.startPosition, fingerprint := none })).diagnostics) ∧
      ∀ surroundings, ∃ tables tally,
        Lexical.Tables.ofTree surroundings tree.root = .ok tables ∧ tables.resolve = .ok tally ∧
        tally.bindings.map (fun entry =>
            (entry.binding tables.frames, entry.reads, entry.writes)) =
          (Lexical.Tracker.ofTree surroundings tree.root).usages.map (fun usage =>
            (usage.binding, usage.reads, usage.writes)) ∧
        tally.unresolved.map (Lexical.ReferenceEntry.reference tables.frames) =
          (Lexical.Tracker.ofTree surroundings tree.root).unresolved := by
  intro policy report failures quotes
  have wellFormed : policy.WellFormed (.builtIn engine) :=
    wellFormed_of_resolve .builtIn succeeds
  have failures_eq : failures = (FileReport.ofDiagnostics tree.path
      ((((Registry.builtIn engine).findings policy tree.root).filter
        (Diagnostic.ofRule "quote-style")).filter Diagnostic.isInternal)).diagnostics := by
    rw [← Registry.filter_isInternal_findings wellFormed]
    exact Diagnostic.filter_ofDiagnostics tree.path (fun _ => rfl) _
  have quotes_eq : quotes = (FileReport.ofDiagnostics tree.path
      ((((Registry.builtIn engine).findings policy tree.root).filter
        (Diagnostic.ofRule "quote-style")).filter fun diagnostic =>
          !diagnostic.isInternal)).diagnostics := by
    rw [List.filter_filter]
    exact Diagnostic.filter_ofDiagnostics tree.path (fun _ => rfl) _
  refine ⟨fun _ => honours_of_mem_builtIn, fun _ member _ => wellFormed.created member, ?_, ?_,
    fun surroundings => Lexical.Tables.resolve_ofTree surroundings tree.root⟩
  · intro inactive
    rw [failures_eq, quotes_eq, Registry.filter_ofRule_findings_of_inactive inactive]
    simp [FileReport.ofDiagnostics]
  · intro binding enabled
    have member : RegisteredRule.of none QuoteStyle.rule ∈ (Registry.builtIn engine).rules :=
      Registry.of_mem_rules_builtIn (by simp [builtIn])
    obtain ⟨settings, created⟩ : ∃ settings : QuoteStyle.Settings,
        QuoteStyle.rule.create binding.options = .ok settings :=
      wellFormed.created member enabled
    obtain ⟨value, isSettings, same⟩ := Rule.created_eq_ok_iff.mp created
    change value = settings at same
    subst same
    have contribution :=
      QuoteStyle.filter_ofRule_findings .builtIn member enabled created tree.root
    have parts := QuoteStyle.filter_isInternal_reports binding.severity value
      ((tree.root.nodes.takeWhile fun node => !QuoteStyle.lacksText node).filter
        (QuoteStyle.isFlagged value)) (tree.root.nodes.find? QuoteStyle.lacksText)
    refine ⟨value, isSettings, ?_, ?_⟩
    · rw [failures_eq, contribution, parts.1, FileReport.ofDiagnostics_toList, Option.map_map]
      rfl
    · rw [quotes_eq, contribution, parts.2, List.map_map]
      rfl

/-- Bound by an alias, beside a rule with a pattern; of the literals the second has no text. -/
theorem evaluate_of_second_literal_without_text :
    let document : PolicyDocument :=
      { PolicyDocument.empty with
        rules := .ofList [("quotes", .string "error"),
          ("camelcase", .array [.string "warn", .object [("allow", .array [.string "^x"])]])] }
    let literal (column : Nat) (raw : Option String) : Node :=
      ⟨.stringLiteral, ⟨⟨1, column⟩, ⟨1, column⟩⟩, .zero, { Attributes.empty with raw }, []⟩
    let tree : SyntaxTree :=
      ⟨⟨"a.js"⟩, Build.node .program .empty
        [literal 1 (some "'a'"), literal 5 none, literal 9 (some "'b'")]⟩
    ∃ resolution, resolve (.builtIn .standard) ∅ "root" document .none = .ok resolution ∧
      ((Registry.builtIn .standard).evaluate resolution.policy tree).diagnostics.filter
          Diagnostic.isInternal =
        [Diagnostic.stamped tree.path ⟨"quote-style", "rule_internal_error", .blocking,
          "Rule 'quote-style' failed: string literal without raw text", ⟨1, 5, .zero⟩, none⟩] ∧
      ((Registry.builtIn .standard).evaluate resolution.policy tree).diagnostics.filter
        (fun diagnostic =>
          !diagnostic.isInternal && Diagnostic.ofRule "quote-style" diagnostic) =
        [Diagnostic.stamped tree.path ⟨"quote-style", "wrong_quotes", .blocking,
          "Strings must use doublequote.", ⟨1, 1, .zero⟩, none⟩] := by
  intro document literal tree
  have succeeds :
      ∃ resolution, resolve (.builtIn .standard) ∅ "root" document .none = .ok resolution ∧
      resolution.policy.activeBinding? "quote-style" = some ⟨.blocking, []⟩ := by
    have listed : document.references = [] := rfl
    rw [resolve, cascade, Layer.expand_eq, listed, Expansion.ok_of_expands .nil rfl]
    exact ⟨_, rfl, rfl⟩
  obtain ⟨resolution, resolved, enabled⟩ := succeeds
  obtain ⟨-, -, -, active, -⟩ := evaluate_fails_only_on_missing_text resolved tree
  obtain ⟨settings, isSettings, failures, quotes⟩ := active _ enabled
  cases isSettings
  exact ⟨resolution, resolved, failures.trans rfl,
    quotes.trans (FileReport.ofDiagnostics_toList tree.path (some ⟨"quote-style", "wrong_quotes",
      .blocking, "Strings must use doublequote.", ⟨1, 1, .zero⟩, none⟩))⟩

end Resolution

end ScriptLint
