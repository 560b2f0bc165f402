import LineJoin.Encoding.Name
import LineJoin.Log
import LineJoin.Text.Small
import LineJoin.Value.Display

/-!
# Choosing an encoding

Input may come in an unknown encoding. A byte order mark settles it; otherwise the detected encoding
is tried if the detector is confident enough, then the default one, then the fallbacks. `decodeWith`
does this for any registry of encodings.
-/

namespace LineJoin.Encoding

/-- What a detector says about some bytes. -/
structure Verdict where
  encoding : Option String := none
  confidence : Value.Number := .float .zero

def Number.display : Value.Number → String
  | .int n => intText n
  | .float x => x.text

/-- How many bytes a detector is shown. -/
def sampleSize : Int := 32 * 1024

/-- The first bytes; a negative size leaves out that many at the end. -/
def sample (size : Int) (data : Bytes) : Bytes :=
  if size < 0 then data.take (data.length - size.natAbs) else data.take size.toNat

abbrev Detector := Bytes → Verdict

/-- Detects the encoding from a sample. -/
def detect {ε : Type} (detector : Detector) (size : Int) (data : Bytes) : Logged ε Verdict := do
  let v := detector (sample size data)
  .log .debug .decoding ("chardet.detect: " ++ v.encoding.getD "None" ++ " (confidence: " ++
    Number.display v.confidence ++ ")")
  return v

/-- How input is to be decoded. -/
structure Preferences where
  defaultEncoding : String := "utf-8"
  detects : Bool := true
  threshold : Value.Number := .float (.ofDecimal false ⟨7, -1⟩)
  fallbacks : List String := []

def standardFallbacks : List String := ["utf-8", "gb18030", "big5", "shift_jis", "euc-kr"]

def Preferences.fallbackList (p : Preferences) : List String :=
  if p.fallbacks.isEmpty then standardFallbacks else p.fallbacks

/-- The detected encoding, if there is one and the confidence reaches the threshold. -/
def accepted {ε : Type} (detector : Detector) (p : Preferences) (data : Bytes) :
    Logged ε (List String) := do
  if p.detects then
    let v ← detect detector sampleSize data
    match v.encoding with
    | none | some "" => return []
    | some name =>
      if p.threshold.le v.confidence then return [name]
      else
        .log .debug .decoding ("Ignoring detected encoding " ++ name ++ ": confidence " ++
          Number.display v.confidence ++ " below " ++ Number.display p.threshold)
        return []
  else return []

/-- The fault when no name is known. -/
def noUsableEncoding (data : Bytes) : Fault :=
  ⟨"unknown", 0, data.length, data.headD 0, "no usable encoding"⟩

/-- Why bytes are not decoded to characters. -/
inductive Refusal where
  | fault (f : Fault)
  | mishap (m : Mishap)
deriving DecidableEq

def noteDecoded {ε : Type} (name : String) : Logged ε Unit :=
  .log .debug .decoding ("Decoded input with " ++ name)

/-- Tries names in order, each spelling once, and remembers the last fault. -/
def tryNames (registry : Registry) (data : Bytes) :
    List String → List String → Option Fault → Logged Refusal (List Char)
  | [], _, last => throw (.fault (last.getD (noUsableEncoding data)))
  | name :: rest, tried, last =>
    if tried.contains (smalls name) then tryNames registry data rest tried last
    else
      match registry name data with
      | .ok (.text cs) => do
        noteDecoded name
        return cs
      | .ok failed => do
        .log .debug .decoding ("Failed to decode with " ++ name ++ ": " ++ failed.message name)
        let last := match failed with
          | .fault f => some f
          | _ => last
        tryNames registry data rest (smalls name :: tried) last
      | .error (.halved codes) => do
        noteDecoded name
        throw (.mishap (.halved codes))
      | .error m => throw (.mishap m)

/-- Decodes bytes with the first encoding that works. -/
def decodeWith (registry : Registry) (detector : Detector) (p : Preferences) (data : Bytes) :
    Logged Refusal (List Char) := do
  if Utf8.mark.isPrefixOf data then .ofExcept ((Utf8.decodeMarked data).mapError .fault)
  else
    let first ← accepted detector p data
    tryNames registry data (first ++ p.defaultEncoding :: p.fallbackList) [] none

end LineJoin.Encoding
