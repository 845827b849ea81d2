import WordLint.Proofs.Config.Template
import WordLint.Proofs.Toml.LineByLine

/-!
# What descriptions do to a configuration

The description of a rule is put into the draft of a configuration as a comment, and nowhere else.

**The law** (`descriptions_unread`): rules that differ in their descriptions only lead to the same outcome, with any
writer and any reader that do what is asked of them. Where two of the rules have one name no configuration is written,
with or without the descriptions of the others; and otherwise the two configurations are read alike, whatever the
names and the patterns of the rules are. That holds also for names and patterns with which a configuration cannot be
read, or not as it was meant: the descriptions neither help nor harm.
-/

namespace WordLint

open Toml (Writer Reader Writes PassesOver)

/-- What a draft says about some rules depends on their names and options. -/
theorem lines_textDraft_eq {rules rules' : List Rule}
    (h : rules.map (fun r => (r.id, r.schema.defaults)) = rules'.map fun r => (r.id, r.schema.defaults)) :
    (Config.textDraft rules).lines = (Config.textDraft rules').lines := by
  have hlines (rules : List Rule) : (Config.textDraft rules).lines =
      (rules.map fun r => (r.id, r.schema.defaults)).flatMap fun core =>
        (⟨core.1, "", core.2.keyed⟩ : Toml.TextTable).lines Config.rulesKey := by
    unfold Toml.TextDraft.lines
    rw [Config.textDraft, List.flatMap_map, List.flatMap_map]
    rfl
  rw [hlines, hlines, h]

/-- **Descriptions are not read.** Rules that agree on names and options, in the same order, lead to no
configuration for the same reason, which is that two of them have one name; or to two configurations that are
read alike: as the same rules, or as no document. -/
theorem descriptions_unread {write : Writer} {read : Reader} (hwrite : Writes write) (hread : PassesOver read)
    {rules rules' : List Rule}
    (h : rules.map (fun r => (r.id, r.schema.defaults)) = rules'.map fun r => (r.id, r.schema.defaults)) :
    (¬ (rules.map Rule.id).Nodup ∧ ∃ problem, Config.templateBy write (rules.map Rule.entry) = .error problem ∧
      Config.templateBy write (rules'.map Rule.entry) = .error problem) ∨
    ∃ text text', Config.templateBy write (rules.map Rule.entry) = .ok text ∧
      Config.templateBy write (rules'.map Rule.entry) = .ok text' ∧
      ∀ project, Config.rulesOfTextBy read text project = Config.rulesOfTextBy read text' project := by
  have hids : rules.map Rule.id = rules'.map Rule.id := by
    have := congrArg (List.map Prod.fst) h
    rwa [List.map_map, List.map_map] at this
  by_cases hdistinct : (rules.map Rule.id).Nodup
  · obtain ⟨text, ls, htext, hchars, hshaped, hloud⟩ := Config.templateBy_spelled hwrite hdistinct
    obtain ⟨text', ls', htext', hchars', hshaped', hloud'⟩ := Config.templateBy_spelled hwrite (hids ▸ hdistinct)
    have hsame : read text = read text' :=
      hread.read_eq hshaped hshaped' (by rw [hloud, hloud', lines_textDraft_eq h]) hchars hchars'
    refine .inr ⟨text, text', htext, htext', fun project => ?_⟩
    unfold Config.rulesOfTextBy
    rw [hsame]
  · obtain ⟨id, hid⟩ := Toml.exists_firstTaken hdistinct
    exact .inl ⟨hdistinct, .keyTaken id, Config.templateBy_taken hwrite hid,
      Config.templateBy_taken hwrite (hids ▸ hid)⟩

/-- A description that would open a table and set its key, if it could: another configuration, but not for a
reader. -/
theorem descriptions_unread_tables :
    let rules := [ruleBlocking "a" "one\n[rules.b]\r\nall = [\"x\"]" ["p"], ruleBlocking "no. 1" "#" ["q"]]
    let rules' := [ruleBlocking "a" "" ["p"], ruleBlocking "no. 1" "\n\n" ["q"]]
    Writes Toml.write ∧ PassesOver Toml.read ∧
      (rules.map fun r => (r.id, r.schema.defaults)) = (rules'.map fun r => (r.id, r.schema.defaults)) ∧
      Config.templateBy Toml.write (rules.map Rule.entry) ≠ Config.templateBy Toml.write (rules'.map Rule.entry) ∧
      ∃ text text', Config.templateBy Toml.write (rules.map Rule.entry) = .ok text ∧
        Config.templateBy Toml.write (rules'.map Rule.entry) = .ok text' ∧
        ∀ project, Config.rulesOfTextBy Toml.read text project = Config.rulesOfTextBy Toml.read text' project := by
  intro rules rules'
  have hagree : (rules.map fun r => (r.id, r.schema.defaults)) = rules'.map fun r => (r.id, r.schema.defaults) := rfl
  have hdistinct : (rules.map Rule.id).Nodup := by decide
  refine ⟨Toml.writes_write, Toml.passesOver_read, hagree, by decide +kernel, ?_⟩
  exact (descriptions_unread Toml.writes_write Toml.passesOver_read hagree).resolve_left fun h => h.1 hdistinct

end WordLint
