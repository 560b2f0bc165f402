import LineJoin.Encoding.Choice
import LineJoin.Proofs.Encoding.NameCase
import LineJoin.Proofs.Results

/-!
# The encoding that is chosen

The candidates for some bytes are the detected encoding where it is accepted, the default one and the
fallbacks. Bytes without a byte order mark are decoded with the first candidate that can decode them.
Passing over a name that differs from an earlier one in case only changes nothing about the text; it
decides which fault is the last one. Bytes with a mark are UTF-8 or fail, whatever the candidates.
-/

namespace LineJoin.Encoding

open Logged

def Attempt.text? : Attempt → Option (List Char)
  | text cs => some cs
  | _ => none

def Attempt.fault? : Attempt → Option Fault
  | fault f => some f
  | _ => none

/-- The name that a verdict gives, if it is certain enough. -/
def Verdict.name? (v : Verdict) (threshold : Value.Number) : Option String :=
  v.encoding.filter fun name => name != "" && threshold.le v.confidence

/-- The detected encoding, if it is asked for and certain enough. -/
def detected? (detector : Detector) (p : Preferences) (data : Bytes) : Option String :=
  if p.detects then (detector (sample sampleSize data)).name? p.threshold else none

/-- The names under which bytes may be decoded, the preferred ones first. -/
def candidates (detector : Detector) (p : Preferences) (data : Bytes) : List String :=
  (detected? detector p data).toList ++ p.defaultEncoding :: p.fallbackList

section Names

variable (decodeAs : String → Bytes → Attempt) (data : Bytes)

/-- The text under the first name that gives one. -/
def firstText? (names : List String) : Option (List Char) :=
  names.findSome? fun name => (decodeAs name data).text?

def faults (names : List String) : List Fault :=
  names.filterMap fun name => (decodeAs name data).fault?

/-- Names without those that differ from an earlier one in case only. -/
def distinctNames (names : List String) : List String :=
  names.eraseDupsBy fun a b => a.toLower == b.toLower

/-- The last fault under distinct names, or one of its own where no name is known. -/
def lastFault (names : List String) : Fault :=
  (faults decodeAs data (distinctNames names)).getLast?.getD (noUsableEncoding data)

end Names

variable {registry : Registry} {decodeAs : String → Bytes → Attempt} {detector : Detector}
  {p : Preferences} {data : Bytes} {name : String} {names tried : List String}
  {last : Option Fault}

/-! ## Detection -/

theorem outcome_detect_bind {ε α : Type} (size : Int) {f : Verdict → Logged ε α}
    (hf : ∀ v, (f v).Appends) : (detect detector size data >>= f).outcome.1 =
      (f (detector (sample size data))).outcome.1 :=
  outcome_bind _ hf

theorem outcome_accepted {ε : Type} :
    (accepted detector p data : Logged ε (List String)).outcome.1 =
      .ok (detected? detector p data).toList := by
  unfold accepted detected?
  cases p.detects with
  | false => rfl
  | true =>
    refine (outcome_detect_bind sampleSize fun v => ?_).trans ?_
    · split
      · exact appends_pure _
      · exact appends_pure _
      · split
        · exact appends_pure _
        · exact (appends_log _ _ _).bind fun _ => appends_pure _
    · rw [if_pos rfl, Verdict.name?]
      generalize detector (sample sampleSize data) = v
      split
      · rename_i hnone
        rw [hnone]
        rfl
      · rename_i hempty
        rw [hempty]
        rfl
      · rename_i name hnonempty hname
        rw [hname, Option.filter_some, bne_iff_ne.mpr hnonempty]
        cases p.threshold.le v.confidence <;> rfl

/-! ## Names that are tried -/

theorem outcome_log_bind {ε α : Type} (level : Level) (channel : Channel) (message : String)
    {x : Logged ε α} (hx : x.Appends) :
    (log level channel message >>= fun _ => x).outcome.1 = x.outcome.1 :=
  outcome_bind _ fun _ => hx

theorem appends_tryNames (names tried : List String) (last : Option Fault) :
    (tryNames registry data names tried last).Appends := by
  induction names generalizing tried last with
  | nil => exact appends_throw _
  | cons name rest ih =>
    unfold tryNames
    split
    · exact ih _ _
    · split
      · exact (appends_log _ _ _).bind fun _ => appends_pure _
      · exact (appends_log _ _ _).bind fun _ => ih _ _
      · exact (appends_log _ _ _).bind fun _ => appends_throw _
      · exact appends_throw _

/-- One step: a name that has been tried is passed over, a new one gives its text or its fault. -/
theorem outcome_tryNames_cons (name : String) (rest : List String) :
    (tryNames (.of decodeAs) data (name :: rest) tried last).outcome.1 =
      if smalls name ∈ tried then (tryNames (.of decodeAs) data rest tried last).outcome.1
      else match (decodeAs name data).text? with
        | some cs => .ok cs
        | none => (tryNames (.of decodeAs) data rest (smalls name :: tried)
            ((decodeAs name data).fault?.or last)).outcome.1 := by
  rw [tryNames]
  by_cases hseen : smalls name ∈ tried
  · rw [if_pos hseen, if_pos (List.contains_iff_mem.mpr hseen)]
  · rw [if_neg hseen, if_neg (mt List.contains_iff_mem.mp hseen), Registry.of]
    cases decodeAs name data with
    | text cs => exact outcome_log_bind _ _ _ (appends_pure _)
    | fault f => exact outcome_log_bind _ _ _ (appends_tryNames _ _ _)
    | unknown => exact outcome_log_bind _ _ _ (appends_tryNames _ _ _)
    | notText => exact outcome_log_bind _ _ _ (appends_tryNames _ _ _)

/-- The names that do not differ from tried ones in case only. -/
def untried (tried names : List String) : List String :=
  names.filter fun name => !tried.contains name.toLower

theorem distinctNames_untried_cons (h : name.toLower ∉ tried) (rest : List String) :
    distinctNames (untried tried (name :: rest)) =
      name :: distinctNames (untried (name.toLower :: tried) rest) := by
  simp only [distinctNames, untried]
  rw [List.filter_cons_of_pos (by simpa using h), List.eraseDupsBy_cons, List.filter_filter]
  simp

theorem getLast?_faults_cons (name : String) (rest : List String) :
    (faults decodeAs data (name :: rest)).getLast? =
      (faults decodeAs data rest).getLast?.or (decodeAs name data).fault? := by
  rw [faults, List.filterMap_cons, faults]
  cases (decodeAs name data).fault? with
  | none => exact Option.or_none.symm
  | some f => exact List.getLast?_cons.trans Option.or_some.symm

/-- Trying names gives the text under the first name that has one, provided that names which are
passed over have none, and otherwise the last fault under the distinct names that are left. -/
theorem outcome_tryNames (hcase : CaseBlind decodeAs) (hascii : ∀ name ∈ names, isAscii name)
    (htried : ∀ name ∈ names, name.toLower ∈ tried → (decodeAs name data).text? = none) :
    (tryNames (.of decodeAs) data names tried last).outcome.1 =
      match firstText? decodeAs data names with
      | some cs => .ok cs
      | none => .error (.fault (((faults decodeAs data
          (distinctNames (untried tried names))).getLast?.or last).getD
          (noUsableEncoding data))) := by
  induction names generalizing tried last with
  | nil => rfl
  | cons name rest ih =>
    obtain ⟨hname, hrest⟩ := List.forall_mem_cons.mp hascii
    obtain ⟨hfirst, hlater⟩ := List.forall_mem_cons.mp htried
    rw [outcome_tryNames_cons, smalls_eq_toLower hname]
    by_cases hseen : name.toLower ∈ tried
    · rw [if_pos hseen, ih hrest hlater]
      simp [firstText?, untried, hfirst hseen, hseen]
    · rw [if_neg hseen]
      cases htext : (decodeAs name data).text? with
      | some cs => simp [firstText?, htext]
      | none =>
        -- A name in another case is decoded alike, so passing over it loses no text.
        have hpassed : ∀ other ∈ rest, other.toLower ∈ name.toLower :: tried →
            (decodeAs other data).text? = none := by
          intro other hother hmem
          rcases List.mem_cons.mp hmem with hsame | hmem
          · rw [hcase other name hsame, htext]
          · exact hlater other hother hmem
        rw [distinctNames_untried_cons hseen, getLast?_faults_cons, Option.or_assoc]
        simp only [firstText?, List.findSome?_cons, htext]
        exact ih hrest hpassed

/-! ## Decoding -/

/-- A byte order mark decides how bytes are decoded. -/
theorem outcome_decodeWith_of_mark (hmark : Utf8.mark <+: data) :
    (decodeWith registry detector p data).outcome.1 =
      (Utf8.decodeMarked data).mapError .fault := by
  rw [decodeWith, if_pos (List.isPrefixOf_iff_prefix.mpr hmark)]
  rfl

theorem outcome_decodeWith (hcase : CaseBlind decodeAs)
    (hascii : ∀ name ∈ candidates detector p data, isAscii name) (hmark : ¬Utf8.mark <+: data) :
    (decodeWith (.of decodeAs) detector p data).outcome.1 =
      match firstText? decodeAs data (candidates detector p data) with
      | some cs => .ok cs
      | none => .error (.fault (lastFault decodeAs data (candidates detector p data))) := by
  have huntried : ∀ names, untried [] names = names := fun names => by simp [untried]
  rw [decodeWith, if_neg (mt List.isPrefixOf_iff_prefix.mp hmark),
    outcome_bind _ fun _ => appends_tryNames _ _ _, outcome_accepted, ok_bind, ← candidates,
    outcome_tryNames hcase hascii (by simp), huntried, Option.or_none, lastFault]

theorem firstText?_eq_none_iff : firstText? decodeAs data names = none ↔
    ∀ name ∈ names, (decodeAs name data).text? = none := List.findSome?_eq_none_iff

/-- Bytes without a byte order mark are decoded with the first candidate that decodes them. If there
is none, the error is the last fault among the candidates that differ in more than case; unknown
names have no fault. -/
theorem decodeWith_firstText (hcase : CaseBlind decodeAs)
    (hascii : ∀ name ∈ candidates detector p data, isAscii name) (hmark : ¬Utf8.mark <+: data) :
    (∀ cs, (decodeWith (.of decodeAs) detector p data).outcome.1 = .ok cs ↔
        firstText? decodeAs data (candidates detector p data) = some cs) ∧
      ∀ e, (decodeWith (.of decodeAs) detector p data).outcome.1 = .error e ↔
        (∀ name ∈ candidates detector p data, (decodeAs name data).text? = none) ∧
          e = .fault (lastFault decodeAs data (candidates detector p data)) := by
  rw [outcome_decodeWith hcase hascii hmark, ← firstText?_eq_none_iff]
  cases firstText? decodeAs data (candidates detector p data) with
  | none => simp [eq_comm]
  | some cs => simp

/-- A detector that is certain about ASCII. -/
def asciiDetector : Detector := fun _ => { encoding := some "ASCII", confidence := .int 1 }

/-- A name that comes again in another case is passed over, also where faults are told. -/
theorem decodeWith_firstText_cases :
    (decodeWith (.of decodeNamed) asciiDetector { fallbacks := ["no-such", "UTF-8", "Latin-1"] }
        [0xE9, 0x61]).outcome.1 = .ok ['é', 'a'] ∧
      (decodeWith (.of decodeNamed) asciiDetector { fallbacks := ["ascii", "no-such"] }
        [0xE9, 0x61]).outcome.1 =
          .error (.fault ⟨"utf-8", 0, 1, 0xE9, "invalid continuation byte"⟩) := by
  have hnames : candidates asciiDetector { fallbacks := ["no-such", "UTF-8", "Latin-1"] }
      [0xE9, 0x61] = ["ASCII", "utf-8", "no-such", "UTF-8", "Latin-1"] := by decide
  have hfailing : candidates asciiDetector { fallbacks := ["ascii", "no-such"] } [0xE9, 0x61] =
      ["ASCII", "utf-8", "ascii", "no-such"] := by decide
  have hdistinct : distinctNames ["ASCII", "utf-8", "ascii", "no-such"] =
      ["ASCII", "utf-8", "no-such"] := by
    simp [distinctNames, List.eraseDupsBy_cons, ← String.toList_inj, toList_toLower]
  constructor
  · refine ((decodeWith_firstText caseBlind_decodeNamed ?_ (by decide)).1 _).mpr ?_
    · rw [hnames]
      decide
    · rw [hnames]
      decide
  · refine ((decodeWith_firstText caseBlind_decodeNamed ?_ (by decide)).2 _).mpr ⟨?_, ?_⟩
    · rw [hfailing]
      decide
    · rw [hfailing]
      decide
    · rw [hfailing, lastFault, hdistinct]
      decide

/-- Bytes fail to be decoded if they have a byte order mark and are no UTF-8, or have none and no
candidate decodes them. After a mark the candidates make no difference. -/
theorem decodeWith_fails_iff (hcase : CaseBlind decodeAs)
    (hascii : ∀ name ∈ candidates detector p data, isAscii name) :
    (∃ e, (decodeWith (.of decodeAs) detector p data).outcome.1 = .error e) ↔
      (Utf8.mark <+: data ∧ ∃ f, Utf8.decodeMarked data = .error f) ∨
        ¬Utf8.mark <+: data ∧
          ∀ name ∈ candidates detector p data, (decodeAs name data).text? = none := by
  by_cases hmark : Utf8.mark <+: data
  · rw [outcome_decodeWith_of_mark hmark]
    cases Utf8.decodeMarked data <;> simp [hmark]
  · rw [outcome_decodeWith hcase hascii hmark, ← firstText?_eq_none_iff]
    cases firstText? decodeAs data (candidates detector p data) with
    | none => simp [hmark]
    | some cs => simp [hmark]

/-- Bytes with a mark can fail although the default encoding decodes them. -/
theorem decodeWith_fails_marked :
    (∃ e, (decodeWith (.of decodeNamed) asciiDetector
        { defaultEncoding := "latin-1", detects := false }
        [0xEF, 0xBB, 0xBF, 0xFF]).outcome.1 = .error e) ∧
      (decodeNamed "latin-1" [0xEF, 0xBB, 0xBF, 0xFF]).text? = some ['ï', '»', '¿', 'ÿ'] :=
  ⟨(decodeWith_fails_iff caseBlind_decodeNamed (by decide)).mpr
      (.inl ⟨by decide, _, rfl⟩), by decide⟩

end LineJoin.Encoding
