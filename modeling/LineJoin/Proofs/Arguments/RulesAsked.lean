import LineJoin.Proofs.Settings.Reloading
import Mathlib.Data.List.Infix

/-!
# Rules that are asked for

`asks` lists what the switches for rules ask for on a command line, from left to right. An accepted
line gives just these rules in this order. A pair of fragments drops the empty ones, as a mapping
does; a single fragment is kept as it is given, so an empty one is no missing one.
-/

namespace LineJoin.Arguments

/-- One rule as it is asked for. -/
inductive Ask where
  | before (pattern : String)
  | after (pattern : String)
  | pair (first second : String)
deriving DecidableEq, Repr

namespace Ask

/-- The sides as they are given. -/
def given : Ask → Rule
  | before pattern => { before := some pattern }
  | after pattern => { after := some pattern }
  | pair first second => ⟨some first, some second⟩

/-- The rule that the arguments hold. -/
def kept (ask : Ask) : Rule :=
  match ask with
  | pair _ _ => ask.given.trimmed
  | _ => ask.given

/-- What a switch asks for with its values. -/
def of? : Switch → List String → Option Ask
  | .before, [pattern] => some (before pattern)
  | .after, [pattern] => some (after pattern)
  | .pair, [first, second] => some (pair first second)
  | _, _ => none

end Ask

/-- The names of the switches for rules. -/
def ruleNames : List (String × Switch) :=
  [("--before", .before), ("--after", .after), ("--pair", .pair)]

/-- The switch for a rule that an argument names, and the value behind an equals sign. The name may
be shortened as far as to its first letter. -/
def ruleSwitch? (arg : String) : Option (Switch × Option String) :=
  let (start, joined) := splitJoined arg
  (ruleNames.find? fun n => 2 < start.toList.length && start.toList.isPrefixOf n.1.toList).map
    fun n => (n.2, joined)

/-- What an argument asks for with those after it. -/
def askAt? (arg : String) (rest : List String) : Option Ask :=
  match ruleSwitch? arg with
  | some (s, some joined) => Ask.of? s [joined]
  | some (s, none) => Ask.of? s (rest.take s.valueCount)
  | none => none

/-- What a command line asks for. After two hyphens nothing is asked for any more. -/
def asks : List String → List Ask
  | [] => []
  | arg :: rest => if arg = "--" then [] else (askAt? arg rest).toList ++ asks rest

example : asks ["--after", "[(]", "--pair", "a", "", "-o", "out", "--bef=[)]", "--", "--after"] =
    [.after "[(]", .pair "a" "", .before "[)]"] := by decide

/-! ## Names of switches -/

/-- The switch that a long name stands for, perhaps shortened. -/
def called? (start : String) : Option Switch :=
  match Switch.named? start, longNames start with
  | some s, _ => some s
  | none, [(_, s)] => some s
  | none, _ => none

variable {arg start : String} {args rest : List String} {s : Switch} {joined : Option String}

theorem classifyOther_not_switch : classifyOther arg ≠ .switch s joined := by
  unfold classifyOther
  split <;> exact nofun

theorem classifyLong_eq_switch_iff : classifyLong arg = .ok (.switch s joined) ↔
    called? (splitJoined arg).1 = some s ∧ (splitJoined arg).2 = joined := by
  unfold classifyLong called?
  generalize splitJoined arg = named
  obtain ⟨start, value⟩ := named
  dsimp only
  cases Switch.named? start with
  | some t => simp
  | none =>
    rcases longNames start with _ | ⟨n, _ | ⟨m, more⟩⟩
    · simp [classifyOther_not_switch]
    · simp
    · simp

/-! ### Names of switches for rules -/

section Names

/-- What a shortened name of a switch for a rule looks like, and what it stands for. -/
theorem shortened_ruleNames : ∀ n ∈ ruleNames, ∀ cs ∈ n.1.toList.inits, 2 < cs.length →
    cs.take 2 = ['-', '-'] ∧ called? (String.ofList cs) = some n.2 ∧
      ruleNames.find? (fun m => cs.isPrefixOf m.1.toList) = some n := by
  decide

/-- Hyphens alone could stand for more than one switch. -/
theorem longNames_hyphens : ∀ n ∈ ruleNames, ∀ cs ∈ n.1.toList.inits, ¬2 < cs.length →
    (longNames (String.ofList cs)).length ≠ 1 := by
  decide

theorem mem_ruleNames : ∀ n ∈ Switch.names, n.2 ∈ [.before, .after, .pair] → n ∈ ruleNames := by
  decide

theorem ruleSwitches : ∀ n ∈ ruleNames, n.2 ∈ [.before, .after, .pair] := by decide

theorem length_ruleNames : ∀ n ∈ ruleNames, 2 < n.1.toList.length := by decide

theorem of_called? (h : called? start = some s) (hs : s ∈ [.before, .after, .pair]) :
    ∃ n ∈ ruleNames, n.2 = s ∧ 2 < start.toList.length ∧ start.toList <+: n.1.toList := by
  unfold called? at h
  split at h
  · rename_i t hnamed
    cases h
    obtain ⟨before, after, hnames, -⟩ := List.lookup_eq_some_iff.mp hnamed
    have hmem : (start, s) ∈ Switch.names := hnames ▸ List.mem_append_right _ List.mem_cons_self
    have hrule := mem_ruleNames _ hmem hs
    exact ⟨_, hrule, rfl, length_ruleNames _ hrule, List.prefix_rfl⟩
  · rename_i n t hnamed hlong
    cases h
    have hmem : (n, s) ∈ longNames start := hlong ▸ List.mem_singleton_self _
    rw [longNames, List.mem_filter, List.isPrefixOf_iff_prefix] at hmem
    have hrule := mem_ruleNames _ hmem.1 hs
    refine ⟨_, hrule, rfl, ?_, hmem.2⟩
    by_contra hshort
    refine longNames_hyphens _ hrule _ ((List.mem_inits _ _).mpr hmem.2) hshort ?_
    rw [String.ofList_toList, hlong, List.length_singleton]
  · cases h

theorem ruleSwitch?_eq_some_iff : ruleSwitch? arg = some (s, joined) ↔
    s ∈ [.before, .after, .pair] ∧ called? (splitJoined arg).1 = some s ∧
      (splitJoined arg).2 = joined := by
  unfold ruleSwitch?
  generalize splitJoined arg = named
  obtain ⟨start, value⟩ := named
  simp only [Option.map_eq_some_iff, Prod.mk.injEq]
  constructor
  · rintro ⟨n, hfind, rfl, rfl⟩
    have hn := List.mem_of_find?_eq_some hfind
    have hshort := List.find?_some hfind
    simp only [Bool.and_eq_true, decide_eq_true_eq, List.isPrefixOf_iff_prefix] at hshort
    obtain ⟨-, hcalled, -⟩ :=
      shortened_ruleNames n hn _ ((List.mem_inits _ _).mpr hshort.2) hshort.1
    rw [String.ofList_toList] at hcalled
    exact ⟨ruleSwitches n hn, hcalled, rfl⟩
  · rintro ⟨hs, hcalled, rfl⟩
    obtain ⟨n, hn, rfl, hlong, hprefix⟩ := of_called? hcalled hs
    obtain ⟨-, -, hfind⟩ := shortened_ruleNames n hn _ ((List.mem_inits _ _).mpr hprefix) hlong
    refine ⟨n, ?_, rfl, rfl⟩
    simpa [hlong] using hfind

theorem cutFirst_eq_some {sep : Char} {cs before after : List Char}
    (h : cutFirst sep cs = some (before, after)) : cs = before ++ sep :: after := by
  induction cs generalizing before after with
  | nil => cases h
  | cons c rest ih =>
    rw [cutFirst] at h
    split at h
    · rename_i hc
      cases h
      rw [eq_of_beq hc, List.nil_append]
    · obtain ⟨⟨first, more⟩, hrest, h⟩ := Option.map_eq_some_iff.mp h
      cases h
      rw [ih hrest, List.cons_append]

theorem splitJoined_prefix (arg : String) : (splitJoined arg).1.toList <+: arg.toList := by
  unfold splitJoined
  split
  · rename_i name value hcut
    rw [String.toList_ofList, cutFirst_eq_some hcut]
    exact List.prefix_append _ _
  · exact List.prefix_rfl

/-- An argument that names a switch for a rule is told to be this switch. -/
theorem classify_of_ruleSwitch? (h : ruleSwitch? arg = some (s, joined)) :
    classify arg = .ok (.switch s joined) := by
  obtain ⟨hs, hcalled, hjoined⟩ := ruleSwitch?_eq_some_iff.mp h
  obtain ⟨n, hn, -, hlong, hprefix⟩ := of_called? hcalled hs
  obtain ⟨hhyphens, -, -⟩ := shortened_ruleNames n hn _ ((List.mem_inits _ _).mpr hprefix) hlong
  obtain ⟨behind, hbehind⟩ := splitJoined_prefix arg
  have harg : arg.toList = '-' :: '-' :: ((splitJoined arg).1.toList.drop 2 ++ behind) := by
    rw [← hbehind, ← List.cons_append, ← List.cons_append]
    exact congrArg (· ++ behind) ((List.take_append_drop 2 _).symm.trans (by rw [hhyphens]; rfl))
  rw [classify, harg]
  exact classifyLong_eq_switch_iff.mpr ⟨hcalled, hjoined⟩

theorem classifyShort_not_rule {cs : List Char} (h : classifyShort arg cs = .switch s joined) :
    s ∉ [.before, .after, .pair] := by
  unfold classifyShort at h
  split at h
  · cases h
    decide
  · cases h
    decide
  · cases h
  · cases h
  · cases h
    decide
  · cases h
    decide
  · exact absurd h classifyOther_not_switch

theorem ruleSwitch?_of_classify (h : classify arg = .ok (.switch s joined))
    (hs : s ∈ [.before, .after, .pair]) : ruleSwitch? arg = some (s, joined) := by
  unfold classify at h
  split at h
  · exact ruleSwitch?_eq_some_iff.mpr ⟨hs, classifyLong_eq_switch_iff.mp h⟩
  · exact absurd hs (classifyShort_not_rule (Except.ok.inj h))
  · cases h

end Names

/-! ## Words -/

/-- What a word asks for with the arguments after it. -/
def Word.ask? (rest : List String) : Word → Option Ask
  | switch s none => Ask.of? s (rest.take s.valueCount)
  | switch s (some joined) => Ask.of? s [joined]
  | _ => none

section Words

variable {w : Word} {ws : List Word} {values : List String} {n : Nat}

theorem of?_eq_none (hs : s ∉ [.before, .after, .pair]) (values : List String) :
    Ask.of? s values = none := by
  cases s <;> first | rfl | exact absurd (by decide) hs

theorem askAt?_eq_ask? (h : classify arg = .ok w) (rest : List String) :
    askAt? arg rest = w.ask? rest := by
  unfold askAt?
  cases hrule : ruleSwitch? arg with
  | some named =>
    obtain ⟨s, joined⟩ := named
    rw [classify_of_ruleSwitch? hrule] at h
    cases h
    cases joined <;> rfl
  | none =>
    cases w with
    | switch s joined =>
      have hs : s ∉ [.before, .after, .pair] := fun hs => by
        rw [ruleSwitch?_of_classify h hs] at hrule
        cases hrule
      cases joined <;> exact (of?_eq_none hs _).symm
    | _ => rfl

theorem classifyOther_value {v : String} (h : classifyOther arg = .value v) : v = arg := by
  unfold classifyOther at h
  split at h
  · cases h
    rfl
  · cases h

theorem classify_value {v : String} (h : classify arg = .ok (.value v)) : v = arg := by
  unfold classify at h
  split at h
  · unfold classifyLong at h
    split at h
    split at h
    · cases h
    · cases h
    · exact classifyOther_value (Except.ok.inj h)
    · cases h
  · unfold classifyShort at h
    split at h
    · cases h
    · cases h
    · cases h
    · cases h
    · cases h
    · cases h
    · exact classifyOther_value (Except.ok.inj h)
  · cases h
    rfl

theorem words_cons (harg : arg ≠ "--") (h : words (arg :: rest) = .ok ws) :
    ∃ w more, classify arg = .ok w ∧ words rest = .ok more ∧ ws = w :: more := by
  rw [words, if_neg harg] at h
  obtain ⟨w, hw, h⟩ := ok_of_bind h
  obtain ⟨more, hmore, h⟩ := ok_of_bind h
  cases h
  exact ⟨w, more, hw, hmore, rfl⟩

/-- The values of a switch are the arguments after it, which are told to be values. -/
theorem valuesAfter_eq_ok (hws : words args = .ok ws) (h : valuesAfter s n ws = .ok values) :
    values = args.take n ∧ ∀ w ∈ ws.take n, ∃ v, w = .value v := by
  induction n generalizing args ws values with
  | zero =>
    cases h
    simp
  | succ n ih =>
    unfold valuesAfter at h
    split at h
    · contradiction
    · rename_i v more hn
      cases hn
      obtain ⟨later, hlater, h⟩ := ok_of_bind h
      cases h
      cases args with
      | nil => cases hws
      | cons arg rest =>
        by_cases harg : arg = "--"
        · rw [words, if_pos harg] at hws
          cases hws
        · obtain ⟨w, more, hw, hmore, hcons⟩ := words_cons harg hws
          cases hcons
          obtain ⟨htaken, hvalues⟩ := ih hmore hlater
          refine ⟨?_, ?_⟩
          · rw [List.take_succ_cons, ← htaken, classify_value hw]
          · simpa using hvalues
    · cases h

theorem joinedValues_eq_ok {value : String} (h : joinedValues s value = .ok values) :
    values = [value] := by
  unfold joinedValues at h
  split at h
  · cases h
  · cases h
    rfl
  · cases h

/-! ## The run -/

variable {a b : Arguments} {p q : Progress} {skip : Nat} {afterInput : Bool}

/-- A switch adds the rule that it asks for. -/
theorem rules_apply (h : apply a s values = .ok b) :
    b.rules = a.rules ++ (Ask.of? s values).toList.map Ask.kept := by
  unfold apply at h
  split at h
  case h_3 v =>
    obtain ⟨_, -, h⟩ := ok_of_bind h
    cases h
    exact (List.append_nil _).symm
  case h_6 v =>
    obtain ⟨_, -, h⟩ := ok_of_bind h
    cases h
    exact (List.append_nil _).symm
  case h_1 | h_14 => cases h
  case h_11 | h_12 | h_13 =>
    cases h
    rfl
  all_goals
    cases h
    exact (List.append_nil _).symm

theorem rules_takeValue (p : Progress) (v : String) :
    (takeValue p v).arguments.rules = p.arguments.rules := by
  unfold takeValue
  split <;> rfl

theorem rules_takeSeparator (p : Progress) (afterInput : Bool) :
    (takeSeparator p afterInput).arguments.rules = p.arguments.rules := by
  unfold takeSeparator
  split <;> rfl

/-- After two hyphens there are no rules. -/
theorem rules_takeWords_values {vs : List String}
    (h : takeWords p 0 afterInput (vs.map .value) = .ok q) :
    q.arguments.rules = p.arguments.rules := by
  induction vs generalizing p afterInput with
  | nil =>
    cases h
    rfl
  | cons v rest ih =>
    rw [List.map_cons, takeWords] at h
    exact (ih h).trans (rules_takeValue p v)

/-- One step: a word adds the rule that it asks for, and what is skipped after it are values. -/
theorem rules_step (hws : words rest = .ok ws) (h : takeWords p 0 afterInput (w :: ws) = .ok q) :
    ∃ p' skip afterInput', takeWords p' skip afterInput' ws = .ok q ∧
      (∀ w ∈ ws.take skip, ∃ v, w = .value v) ∧
        p'.arguments.rules = p.arguments.rules ++ (w.ask? rest).toList.map Ask.kept := by
  have hnone : ∀ w ∈ ws.take 0, ∃ v, w = Word.value v := by simp
  cases w with
  | value v =>
    rw [takeWords] at h
    exact ⟨_, _, _, h, hnone, (rules_takeValue p v).trans (List.append_nil _).symm⟩
  | unknown text =>
    rw [takeWords] at h
    exact ⟨_, _, _, h, hnone, (List.append_nil _).symm⟩
  | separator =>
    rw [takeWords] at h
    exact ⟨_, _, _, h, hnone, (rules_takeSeparator p afterInput).trans (List.append_nil _).symm⟩
  | helpWith value =>
    rw [takeWords] at h
    obtain ⟨_, -, h⟩ := ok_of_bind h
    exact ⟨_, _, _, h, hnone, (List.append_nil _).symm⟩
  | switch s joined =>
    cases joined with
    | none =>
      rw [takeWords] at h
      obtain ⟨values, hvalues, h⟩ := ok_of_bind h
      obtain ⟨b, hb, h⟩ := ok_of_bind h
      obtain ⟨htake, htaken⟩ := valuesAfter_eq_ok hws hvalues
      rw [htake] at hb
      exact ⟨_, _, _, h, htaken, rules_apply hb⟩
    | some joined =>
      rw [takeWords] at h
      obtain ⟨values, hvalues, h⟩ := ok_of_bind h
      obtain ⟨b, hb, h⟩ := ok_of_bind h
      rw [joinedValues_eq_ok hvalues] at hb
      exact ⟨_, _, _, h, hnone, rules_apply hb⟩

/-- Taking words adds the rules that the arguments ask for. Values that a switch has taken name no
switch, so they ask for nothing a second time. -/
theorem rules_takeWords (hws : words args = .ok ws) (hskip : ∀ w ∈ ws.take skip, ∃ v, w = .value v)
    (h : takeWords p skip afterInput ws = .ok q) :
    q.arguments.rules = p.arguments.rules ++ (asks args).map Ask.kept := by
  induction args generalizing p skip afterInput ws with
  | nil =>
    cases hws
    cases h
    exact (List.append_nil _).symm
  | cons arg rest ih =>
    by_cases harg : arg = "--"
    · rw [words, if_pos harg] at hws
      cases hws
      cases skip with
      | succ n =>
        obtain ⟨v, hv⟩ := hskip _ List.mem_cons_self
        cases hv
      | zero =>
        rw [takeWords] at h
        rw [asks, if_pos harg, List.map_nil, List.append_nil, rules_takeWords_values h,
          rules_takeSeparator]
    · obtain ⟨w, more, hw, hmore, rfl⟩ := words_cons harg hws
      rw [asks, if_neg harg, askAt?_eq_ask? hw]
      cases skip with
      | succ n =>
        rw [List.take_succ_cons] at hskip
        obtain ⟨⟨v, rfl⟩, hlater⟩ := List.forall_mem_cons.mp hskip
        rw [takeWords] at h
        exact ih hmore hlater h
      | zero =>
        obtain ⟨p', skip, afterInput', h, hskip, hrules⟩ := rules_step hmore h
        rw [ih hmore hskip h, hrules, List.append_assoc, List.map_append]

theorem rules_read (h : read args = .ok a) : a.rules = (asks args).map Ask.kept := by
  obtain ⟨ws, hws, h⟩ := ok_of_bind h
  obtain ⟨q, hq, h⟩ := ok_of_bind h
  have hrules := rules_takeWords (ok_of_mapError hws) (by simp) hq
  split at h
  · cases h
    exact hrules
  · cases h

end Words

/-! ## Rules from a mapping -/

/-- An options mapping with a rule for each that is asked for, its sides as they are given. -/
def asksMapping (asks : List Ask) : Value :=
  .dict [(.str "additional_regexp_pairs",
    .list ((asks.map Ask.given).map Settings.ruleMapping))]

theorem ofValue_asksMapping (asks : List Ask) : (Options.ofValue (asksMapping asks)).outcome.1 =
    .ok { additionalRules := (asks.map Ask.given).map Rule.trimmed } := by
  change ((Options.readRules "additional_regexp_pairs" _ >>= fun rules =>
    pure { additionalRules := rules } : Logged OptionsError Options)).outcome.1 = _
  rw [Logged.outcome_bind _ fun _ => Logged.appends_pure _]
  change ((Options.readItems _ 0 _).outcome.1 >>= _) = _
  rw [Options.readItems_ruleMappings]
  rfl

/-- Only a single fragment that is empty is kept as a side. -/
theorem kept_eq_trimmed_iff (ask : Ask) :
    ask.kept = ask.given.trimmed ↔ ask ≠ .before "" ∧ ask ≠ .after "" := by
  cases ask with
  | before pattern => simp [Ask.kept, Ask.given, Rule.trimmed, Rule.side]
  | after pattern => simp [Ask.kept, Ask.given, Rule.trimmed, Rule.side]
  | pair first second => simp [Ask.kept]

theorem side_side (fragment : String) :
    (Rule.side fragment).bind Rule.side = Rule.side fragment := by
  by_cases h : fragment = "" <;> simp [Rule.side, h]

theorem trimmed_kept (ask : Ask) : ask.kept.trimmed = ask.given.trimmed := by
  cases ask with
  | before pattern => rfl
  | after pattern => rfl
  | pair first second => simp [Ask.kept, Ask.given, Rule.trimmed, side_side]

/-- An accepted command line gives the rules that it asks for in their order. Apart from empty sides
they are those of the mapping with the same sides, and they are the very same just if no single
fragment that is asked for is empty. -/
theorem read_rules {args : List String} {a : Arguments} (h : read args = .ok a) :
    a.rules = (asks args).map Ask.kept ∧
      ∃ rules, (Options.ofValue (asksMapping (asks args))).outcome.1 =
          .ok { additionalRules := rules } ∧
        a.rules.map Rule.trimmed = rules ∧
        (a.rules = rules ↔ Ask.before "" ∉ asks args ∧ Ask.after "" ∉ asks args) := by
  have hrules := rules_read h
  refine ⟨hrules, _, ofValue_asksMapping _, ?_, ?_⟩
  · rw [hrules, List.map_map, List.map_map]
    exact List.map_congr_left fun ask _ => trimmed_kept ask
  · rw [hrules, List.map_map, List.map_inj_left]
    simp only [Function.comp_apply, kept_eq_trimmed_iff]
    constructor
    · intro hall
      exact ⟨fun hmem => (hall _ hmem).1 rfl, fun hmem => (hall _ hmem).2 rfl⟩
    · rintro ⟨hbefore, hafter⟩ ask hmem
      exact ⟨fun hask => hbefore (hask ▸ hmem), fun hask => hafter (hask ▸ hmem)⟩

/-- An empty side of a pair is missing, an empty single fragment is not. -/
theorem read_rules_empty :
    ∃ a, read ["--pair", "a", "", "in.txt", "--be=", "--hangul", "--after", "[(]"] = .ok a ∧
      a.rules = [{ before := some "a" }, { before := some "" }, { after := some "[(]" }] ∧
      ∃ rules, (Options.ofValue (asksMapping
          [.pair "a" "", .before "", .after "[(]"])).outcome.1 = .ok { additionalRules := rules } ∧
        a.rules ≠ rules := by
  have hasks : asks ["--pair", "a", "", "in.txt", "--be=", "--hangul", "--after", "[(]"] =
      [.pair "a" "", .before "", .after "[(]"] := by decide
  cases hread : read ["--pair", "a", "", "in.txt", "--be=", "--hangul", "--after", "[(]"] with
  | error stop =>
    have hok : (read ["--pair", "a", "", "in.txt", "--be=", "--hangul", "--after", "[(]"]).isOk =
      true := by decide
    rw [hread] at hok
    cases hok
  | ok a =>
    obtain ⟨hrules, rules, hgiven, -, hiff⟩ := read_rules hread
    rw [hasks] at hrules hgiven hiff
    refine ⟨a, rfl, hrules, rules, hgiven, fun hsame => ?_⟩
    exact (hiff.mp hsame).1 (by decide)

end LineJoin.Arguments
