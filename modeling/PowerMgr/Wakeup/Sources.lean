import PowerMgr.Lib.CompactJson

/-!
# Editing a wakeup source

The wakeup sources are a JSON text in the settings: one member for each source, with a member `enable`
of its own.  The parser takes a source for enabled unless `enable` is false.  Three editors switch a
source on or off in the text; two of them refuse a source whose `enable` is no boolean, the third one
takes it for enabled, like the parser.

* `parseSources` — `WakeupSourceParser::ParseSources` of a text, with the settings it writes;
* `wakeupParseJsonConfig`, `pickupWakeupParseJsonConfig`, `lidWakeupParseJsonConfig` — the editors,
  with the text they store, if any;
* `edit_sources` — what the parser reads of an edited text;
* `editTree_comm`, `editTree_editTree` — edits of two sources, and two edits of one.
-/

namespace PowerMgr.Wakeup.Sources

open Lib (Json JsonText)
open Lib.CompactJson (compact)
open Lib.Json (lookup update)

universe u

variable {ν : Type u}

/-! ## The parser -/

/-- The types that a key can stand for. -/
inductive WakeupDeviceType where
  | unknown
  | powerButton
  | mouse
  | keyboard
  | pen
  | touchpad
  | lid
  | switch
  | singleClick
  | doubleClick
  | pickup
  | tpTouch
  deriving DecidableEq, Repr

structure WakeupSource where
  reason : WakeupDeviceType
  enable : Bool
  click : UInt32
  deriving DecidableEq, Repr

def singleClick : UInt32 := 1

def doubleClick : UInt32 := 2

/-- `WakeupSources::mapWakeupDeviceType`. -/
def mapWakeupDeviceType (key : String) (click : UInt32) : WakeupDeviceType :=
  if key = "powerkey" then .powerButton
  else if key = "mouse" then .mouse
  else if key = "keyborad" then .keyboard
  else if key = "pen" then .pen
  else if key = "touchpad" then .touchpad
  else if key = "lid" then .lid
  else if key = "switch" then .switch
  else if key = "touchscreen" then if click = singleClick then .singleClick else .doubleClick
  else if key = "pickup" then .pickup
  else if key = "tp_touch" then .tpTouch
  else .unknown

/-- `WakeupSources`. -/
structure WakeupSources where
  sourceList : List WakeupSource := []
  parseErrorFlag : Bool := false
  deriving DecidableEq, Repr

/-- Settings that the parser gives a first value. -/
structure Settings where
  wakeupDouble : Option Bool := none
  wakeupPickup : Option Bool := none
  wakeupLid : Option Bool := none
  deriving DecidableEq, Repr

/-- `enable` of a value: true unless it says otherwise. -/
def readEnable : Json ν → Bool
  | .object members =>
    match lookup "enable" members with
    | some (.bool enable) => enable
    | _ => true
  | _ => true

/-- `click` of a value; `valueint` gives the integer of a number. -/
def readClick (valueint : ν → Int32) : Json ν → UInt32
  | .object members =>
    match lookup "click" members with
    | some (.number value) =>
      let clickInt := (valueint value).toUInt32
      if clickInt = singleClick ∨ clickInt = doubleClick then clickInt else doubleClick
    | _ => doubleClick
  | _ => doubleClick

/-- The settings of a source that is switched off, and of the lid. -/
def writeSettings (isFirstSettingUpdated : Bool) (wakeupDeviceType : WakeupDeviceType) (enable : Bool) (s : Settings) :
    Settings :=
  let s :=
    if !enable && isFirstSettingUpdated then
      match wakeupDeviceType with
      | .doubleClick => { s with wakeupDouble := s.wakeupDouble.or (some enable) }
      | .pickup => { s with wakeupPickup := s.wakeupPickup.or (some enable) }
      | _ => s
    else s
  -- `SetSettingsToDatabase`
  match wakeupDeviceType with
  | .lid => { s with wakeupLid := s.wakeupLid.or (some enable) }
  | _ => s

/-- `WakeupSourceParser::ParseSourcesProc`. -/
def parseSourcesProc (valueint : ν → Int32) (isFirstSettingUpdated : Bool) (parsed : WakeupSources × Settings)
    (member : String × Json ν) : WakeupSources × Settings :=
  let enable := readEnable member.2
  let click := readClick valueint member.2
  let wakeupDeviceType := mapWakeupDeviceType member.1 click
  if wakeupDeviceType = .unknown then parsed
  else
    ({ parsed.1 with
        sourceList :=
          if enable then parsed.1.sourceList ++ [⟨wakeupDeviceType, enable, click⟩] else parsed.1.sourceList },
      writeSettings isFirstSettingUpdated wakeupDeviceType enable parsed.2)

/-- `WakeupSourceParser::ParseSources`; the items of an array have no key and are passed over. -/
def parseSources (text : JsonText ν) (valueint : ν → Int32) (isFirstSettingUpdated : Bool) (s : Settings)
    (jsonStr : String) : WakeupSources × Settings :=
  match text.parse jsonStr with
  | some (.object members) => members.foldl (parseSourcesProc valueint isFirstSettingUpdated) ({}, s)
  | some (.array _) => ({}, s)
  | _ => ({ parseErrorFlag := true }, s)

/-! ## The editors -/

/-- A value with another `enable`. -/
def setEnable (enable : Bool) : Json ν → Json ν
  | .object node => .object (update "enable" (fun _ => .bool enable) node)
  | value => value

/-- The text to be stored by the editor of the source `name`, if any. -/
def parseJsonConfig (name : String) (text : JsonText ν) (updateEnable : Bool) (jsonStr : String) : Option String :=
  match text.parse jsonStr with
  | some (.object root) =>
    match lookup name root with
    | some (.object node) =>
      match lookup "enable" node with
      | some (.bool originEnable) =>
        if originEnable = updateEnable then none
        else some (text.print (.object (update name (setEnable updateEnable) root)))
      | _ => none
    | _ => none
  | _ => none

/-- `WakeupController::WakeupParseJsonConfig`. -/
def wakeupParseJsonConfig (text : JsonText ν) (updateEnable : Bool) (jsonStr : String) : Option String :=
  parseJsonConfig "touchscreen" text updateEnable jsonStr

/-- `WakeupController::PickupWakeupParseJsonConfig`. -/
def pickupWakeupParseJsonConfig (text : JsonText ν) (updataEnable : Bool) (jsonStr : String) : Option String :=
  parseJsonConfig "pickup" text updataEnable jsonStr

/-- `WakeupController::LidWakeupParseJsonConfig`: an `enable` that is no boolean counts as true. -/
def lidWakeupParseJsonConfig (text : JsonText ν) (updataEnable : Bool) (jsonStr : String) : Option String :=
  match text.parse jsonStr with
  | some (.object root) =>
    match lookup "lid" root with
    | some (.object lidNode) =>
      let enableNode := lookup "enable" lidNode
      let originEnable := match enableNode with
        | some (.bool enable) => enable
        | _ => true
      if originEnable = updataEnable then none
      else
        match enableNode with
        | some (.bool _) => some (text.print (.object (update "lid" (setEnable updataEnable) root)))
        -- there is nothing to set
        | _ => some (text.print (.object root))
    | _ => none
  | _ => none

inductive Editor where
  | touchscreen
  | pickup
  | lid
  deriving DecidableEq, Repr

/-- The member that an editor edits. -/
def Editor.name : Editor → String
  | .touchscreen => "touchscreen"
  | .pickup => "pickup"
  | .lid => "lid"

def Editor.run (text : JsonText ν) : Editor → Bool → String → Option String
  | .touchscreen => wakeupParseJsonConfig text
  | .pickup => pickupWakeupParseJsonConfig text
  | .lid => lidWakeupParseJsonConfig text

/-- The text in the settings after an edit. -/
def Editor.store (text : JsonText ν) (e : Editor) (enable : Bool) (jsonStr : String) : String :=
  (e.run text enable jsonStr).getD jsonStr

/-! ## What is parsed -/

section Parse

variable (valueint : ν → Int32)

/-- The source of a member, if it is known and enabled. -/
def sourceOf (member : String × Json ν) : Option WakeupSource :=
  let click := readClick valueint member.2
  if mapWakeupDeviceType member.1 click ≠ .unknown ∧ readEnable member.2 = true then
    some ⟨mapWakeupDeviceType member.1 click, true, click⟩
  else none

/-- The sources of the members, in their order. -/
def sources (members : List (String × Json ν)) : List WakeupSource :=
  members.filterMap (sourceOf valueint)

theorem parseSourcesProc_fst (first : Bool) (parsed : WakeupSources × Settings) (member : String × Json ν) :
    (parseSourcesProc valueint first parsed member).1 =
      { parsed.1 with sourceList := parsed.1.sourceList ++ (sourceOf valueint member).toList } := by
  unfold parseSourcesProc sourceOf
  by_cases hknown : mapWakeupDeviceType member.1 (readClick valueint member.2) = .unknown
  · simp [hknown]
  · cases henable : readEnable member.2 <;> simp [hknown]

theorem foldl_parseSourcesProc (first : Bool) (members : List (String × Json ν)) (parsed : WakeupSources × Settings) :
    (members.foldl (parseSourcesProc valueint first) parsed).1 =
      { parsed.1 with sourceList := parsed.1.sourceList ++ sources valueint members } := by
  induction members generalizing parsed with
  | nil => simp [sources]
  | cons member members ih =>
    rw [List.foldl_cons, ih, parseSourcesProc_fst]
    cases hsource : sourceOf valueint member <;> simp [sources, hsource]

/-- Whatever the settings are, a text reads as these sources. -/
def Reads (text : JsonText ν) (jsonStr : String) (list : List WakeupSource) : Prop :=
  ∀ first s, (parseSources text valueint first s jsonStr).1 = { sourceList := list }

theorem reads_of_parse {text : JsonText ν} {jsonStr : String} {members : List (String × Json ν)}
    (h : text.parse jsonStr = some (.object members)) : Reads valueint text jsonStr (sources valueint members) := by
  intro first s
  simp [parseSources, h, foldl_parseSourcesProc]

end Parse

/-! ## What is edited -/

/-- A value after an edit: an `enable` that is a boolean is set. -/
def switch (enable : Bool) : Json ν → Json ν
  | .object node =>
    match lookup "enable" node with
    | some (.bool _) => setEnable enable (.object node)
    | _ => .object node
  | value => value

/-- A tree after an edit. -/
def editTree (name : String) (enable : Bool) : Json ν → Json ν
  | .object root => .object (update name (switch enable) root)
  | json => json

section Edit

variable {text : JsonText ν} {enable : Bool} {jsonStr : String}

/-- `enable` of a member: a boolean or not. -/
theorem enable_cases (node : List (String × Json ν)) :
    (∃ origin, lookup "enable" node = some (.bool origin)) ∨ ∀ origin, lookup "enable" node ≠ some (.bool origin) := by
  rw [← not_exists]
  exact Classical.em _

/-- What an editor tells apart: no object of that name, an object whose `enable` is no boolean, and one
whose `enable` is. -/
theorem node_cases (name : String) (root : List (String × Json ν)) :
    (∀ node, lookup name root ≠ some (.object node)) ∨
      ∃ node, lookup name root = some (.object node) ∧
        ((∃ origin, lookup "enable" node = some (.bool origin)) ∨
          ∀ origin, lookup "enable" node ≠ some (.bool origin)) := by
  by_cases hobject : ∃ node, lookup name root = some (.object node)
  · obtain ⟨node, hnode⟩ := hobject
    exact .inr ⟨node, hnode, enable_cases node⟩
  · exact .inl (not_exists.mp hobject)

theorem switch_of_bool {node : List (String × Json ν)} {origin : Bool}
    (h : lookup "enable" node = some (.bool origin)) : switch enable (.object node) = setEnable enable (.object node) := by
  simp [switch, h]

theorem switch_same {node : List (String × Json ν)} (h : lookup "enable" node = some (.bool enable)) :
    switch enable (.object node) = .object node := by
  rw [switch_of_bool h, setEnable, Json.update_eq_self fun value hvalue => ?_]
  rw [h, Option.some.injEq] at hvalue
  exact hvalue

theorem switch_of_not_bool {node : List (String × Json ν)}
    (h : ∀ origin, lookup "enable" node ≠ some (.bool origin)) : switch enable (.object node) = .object node := by
  simp only [switch]

theorem switch_switch (enable' : Bool) (value : Json ν) : switch enable' (switch enable value) = switch enable' value := by
  cases value with
  | object node =>
    obtain ⟨origin, horigin⟩ | hnot := enable_cases node
    · have hset : lookup "enable" (update "enable" (fun _ => Json.bool enable) node) = some (.bool enable) := by
        simp [horigin]
      rw [switch_of_bool horigin, switch_of_bool horigin]
      simp only [setEnable]
      rw [switch_of_bool hset, setEnable, Json.update_update]
      rfl
    · rw [switch_of_not_bool hnot]
  | _ => rfl

/-- An editor that finds no object leaves the tree alone, and so does the edit of the tree. -/
theorem editTree_of_not_object {name : String} {root : List (String × Json ν)}
    (h : ∀ node, lookup name root ≠ some (.object node)) : editTree name enable (.object root) = .object root := by
  rw [editTree, Json.update_eq_self fun value hvalue => ?_]
  cases value with
  | object node => exact absurd hvalue (h node)
  | _ => rfl

theorem editTree_of_node {name : String} {root node : List (String × Json ν)}
    (hnode : lookup name root = some (.object node)) (hswitch : switch enable (.object node) = .object node) :
    editTree name enable (.object root) = .object root := by
  rw [editTree, Json.update_eq_self fun value hvalue => ?_]
  rw [hnode, Option.some.injEq] at hvalue
  rw [← hvalue, hswitch]

theorem editTree_of_bool {name : String} {root node : List (String × Json ν)} {origin : Bool}
    (hnode : lookup name root = some (.object node)) (hbool : lookup "enable" node = some (.bool origin)) :
    editTree name enable (.object root) = .object (update name (setEnable enable) root) := by
  rw [editTree, Json.update_congr hnode (switch_of_bool hbool)]

/-- The guard of the two editors. -/
theorem parseJsonConfig_of_not_bool {name : String} {root node : List (String × Json ν)}
    (hparse : text.parse jsonStr = some (.object root)) (hnode : lookup name root = some (.object node))
    (hnone : ∀ origin, lookup "enable" node ≠ some (.bool origin)) :
    parseJsonConfig name text enable jsonStr = none := by
  simp only [parseJsonConfig, hparse, hnode]

/-- What is stored by the editor of a source is the edited tree, and what is not stored is no
change of it. -/
theorem parse_parseJsonConfig (name : String) :
    text.parse ((parseJsonConfig name text enable jsonStr).getD jsonStr) =
      (text.parse jsonStr).map (editTree name enable) := by
  cases hparse : text.parse jsonStr with
  | none => simp [parseJsonConfig, hparse]
  | some json =>
    cases json with
    | object root =>
      obtain hnone | ⟨node, hnode, ⟨origin, horigin⟩ | hnot⟩ := node_cases name root
      · have hrefused : parseJsonConfig name text enable jsonStr = none := by
          simp only [parseJsonConfig, hparse]
        simp [hrefused, hparse, editTree_of_not_object hnone]
      · by_cases hsame : origin = enable
        · subst hsame
          simp [parseJsonConfig, hparse, hnode, horigin, editTree_of_node hnode (switch_same horigin)]
        · simp [parseJsonConfig, hparse, hnode, horigin, hsame, text.parse_print, editTree_of_bool hnode horigin]
      · have hrefused : parseJsonConfig name text enable jsonStr = none := parseJsonConfig_of_not_bool hparse hnode hnot
        simp [hrefused, hparse, editTree_of_node hnode (switch_of_not_bool hnot)]
    | _ => simp [parseJsonConfig, hparse, editTree]

theorem parse_lidWakeupParseJsonConfig :
    text.parse ((lidWakeupParseJsonConfig text enable jsonStr).getD jsonStr) =
      (text.parse jsonStr).map (editTree "lid" enable) := by
  cases hparse : text.parse jsonStr with
  | none => simp [lidWakeupParseJsonConfig, hparse]
  | some json =>
    cases json with
    | object root =>
      obtain hnone | ⟨node, hnode, ⟨origin, horigin⟩ | hnot⟩ := node_cases "lid" root
      · have hrefused : lidWakeupParseJsonConfig text enable jsonStr = none := by
          simp only [lidWakeupParseJsonConfig, hparse]
        simp [hrefused, hparse, editTree_of_not_object hnone]
      · by_cases hsame : origin = enable
        · subst hsame
          simp [lidWakeupParseJsonConfig, hparse, hnode, horigin, editTree_of_node hnode (switch_same horigin)]
        · simp [lidWakeupParseJsonConfig, hparse, hnode, horigin, hsame, text.parse_print,
            editTree_of_bool hnode horigin]
      · -- What is stored, if anything, is the tree as it was.
        rw [Option.map_some, editTree_of_node hnode (switch_of_not_bool hnot)]
        cases enable with
        | true =>
          have hsame : lidWakeupParseJsonConfig text true jsonStr = none := by
            simp only [lidWakeupParseJsonConfig, hparse, hnode, if_true]
          simp [hsame, hparse]
        | false =>
          have hstored : lidWakeupParseJsonConfig text false jsonStr = some (text.print (.object root)) := by
            simp only [lidWakeupParseJsonConfig, hparse, hnode, Bool.true_eq_false, if_false]
          simp [hstored, text.parse_print]
    | _ => simp [lidWakeupParseJsonConfig, hparse, editTree]

theorem parse_store (e : Editor) :
    text.parse (e.store text enable jsonStr) = (text.parse jsonStr).map (editTree e.name enable) := by
  cases e with
  | touchscreen => exact parse_parseJsonConfig "touchscreen"
  | pickup => exact parse_parseJsonConfig "pickup"
  | lid => exact parse_lidWakeupParseJsonConfig

theorem editTree_comm {name other : String} (hne : name ≠ other) (enable enable' : Bool) (json : Json ν) :
    editTree name enable (editTree other enable' json) = editTree other enable' (editTree name enable json) := by
  cases json with
  | object root => simp only [editTree, Json.update_comm hne]
  | _ => rfl

theorem editTree_editTree (name : String) (enable enable' : Bool) (json : Json ν) :
    editTree name enable' (editTree name enable json) = editTree name enable' json := by
  cases json with
  | object root =>
    have hswitch : (switch enable' ∘ switch enable : Json ν → Json ν) = switch enable' := funext (switch_switch enable')
    simp only [editTree, Json.update_update, hswitch]
  | _ => rfl

end Edit

/-! ## What the parser reads of an edited text -/

/-- The source that a value stands for when it is enabled. -/
def enabledSource (valueint : ν → Int32) (e : Editor) (node : List (String × Json ν)) : WakeupSource :=
  let click := readClick valueint (.object node)
  ⟨mapWakeupDeviceType e.name click, true, click⟩

/-- An edit of the first member of its name: the sources of the other members are read as before.
The edited source is read exactly if it was to be enabled, where its `enable` is a boolean or nothing
was to be disabled; two of the editors refuse any other `enable`. -/
structure Edits (text : JsonText ν) (valueint : ν → Int32) (e : Editor) (enable : Bool) (jsonStr : String)
    (before node after : List (String × Json ν)) : Prop where
  unedited : Reads valueint text jsonStr
    (sources valueint before ++ (sourceOf valueint (e.name, .object node)).toList ++ sources valueint after)
  others : ∃ own : Option WakeupSource, Reads valueint text (e.store text enable jsonStr)
    (sources valueint before ++ own.toList ++ sources valueint after)
  edited : (enable = true ∨ ∃ origin, lookup "enable" node = some (.bool origin)) →
    Reads valueint text (e.store text enable jsonStr)
      (sources valueint before ++ (if enable then [enabledSource valueint e node] else []) ++ sources valueint after)
  refused : e ≠ .lid → (∀ origin, lookup "enable" node ≠ some (.bool origin)) → e.run text enable jsonStr = none

section Edits

variable {text : JsonText ν} {valueint : ν → Int32} {e : Editor} {enable : Bool} {jsonStr : String}
  {before node after : List (String × Json ν)}

theorem sources_split (value : Json ν) :
    sources valueint (before ++ (e.name, value) :: after) =
      sources valueint before ++ (sourceOf valueint (e.name, value)).toList ++ sources valueint after := by
  cases hsource : sourceOf valueint (e.name, value) <;> simp [sources, hsource]

/-- The keys of the three sources are known, whatever the click. -/
theorem mapWakeupDeviceType_name (e : Editor) (click : UInt32) : mapWakeupDeviceType e.name click ≠ .unknown := by
  cases e with
  | touchscreen =>
    by_cases hclick : click = singleClick <;> simp [mapWakeupDeviceType, Editor.name, hclick]
  | pickup => simp [mapWakeupDeviceType, Editor.name]
  | lid => simp [mapWakeupDeviceType, Editor.name]

/-- Setting `enable` does not change `click`. -/
theorem readClick_switch (value : Json ν) : readClick valueint (switch enable value) = readClick valueint value := by
  cases value with
  | object node =>
    obtain ⟨origin, horigin⟩ | hnot := enable_cases node
    · have hclick : lookup "click" (update "enable" (fun _ => Json.bool enable) node) = lookup "click" node :=
        Json.lookup_update_of_ne (by decide)
      rw [switch_of_bool horigin]
      simp only [setEnable, readClick, hclick]
    · rw [switch_of_not_bool hnot]
  | _ => rfl

theorem readEnable_switch (h : enable = true ∨ ∃ origin, lookup "enable" node = some (.bool origin)) :
    readEnable (switch enable (.object node)) = enable := by
  obtain ⟨origin, horigin⟩ | hnot := enable_cases node
  · rw [switch_of_bool horigin]
    simp [setEnable, readEnable, horigin]
  · have henable : enable = true := h.resolve_right (not_exists.mpr hnot)
    rw [switch_of_not_bool hnot, henable]
    simp only [readEnable]

theorem sourceOf_switch (h : enable = true ∨ ∃ origin, lookup "enable" node = some (.bool origin)) :
    (sourceOf valueint (e.name, switch enable (.object node))).toList =
      if enable then [enabledSource valueint e node] else [] := by
  have hknown := mapWakeupDeviceType_name e (readClick valueint (.object node))
  cases enable <;> simp [sourceOf, readEnable_switch h, readClick_switch, hknown, enabledSource]

theorem edits_of_parse (hparse : text.parse jsonStr = some (.object (before ++ (e.name, .object node) :: after)))
    (hfirst : ∀ member ∈ before, member.1 ≠ e.name) : Edits text valueint e enable jsonStr before node after := by
  have hstored : text.parse (e.store text enable jsonStr) =
      some (.object (before ++ (e.name, switch enable (.object node)) :: after)) := by
    rw [parse_store, hparse, Option.map_some, editTree, Json.update_split hfirst]
  have hreads := reads_of_parse valueint hstored
  rw [sources_split] at hreads
  refine ⟨?_, ⟨_, hreads⟩, fun henable => ?_, fun hlid hnone => ?_⟩
  · rw [← sources_split]
    exact reads_of_parse valueint hparse
  · rwa [sourceOf_switch henable] at hreads
  · have hnode : lookup e.name (before ++ (e.name, .object node) :: after) = some (.object node) :=
      Json.lookup_split hfirst
    cases e with
    | touchscreen => exact parseJsonConfig_of_not_bool hparse hnode hnone
    | pickup => exact parseJsonConfig_of_not_bool hparse hnode hnone
    | lid => exact absurd rfl hlid

theorem name_injective {e e' : Editor} (h : e ≠ e') : e.name ≠ e'.name := by
  cases e <;> cases e' <;> simp [Editor.name] at h ⊢

/-- Each edit does what it is asked to the source it edits and nothing to the others; edits of two
sources may be swapped, and of two edits of a source the last one counts. -/
theorem edit_sources (text : JsonText ν) (valueint : ν → Int32) :
    (∀ e enable jsonStr before node after,
      text.parse jsonStr = some (.object (before ++ (Editor.name e, .object node) :: after)) →
      (∀ member ∈ before, member.1 ≠ Editor.name e) → Edits text valueint e enable jsonStr before node after) ∧
    (∀ e e' enable enable' jsonStr, e ≠ e' →
      text.parse (Editor.store text e enable (Editor.store text e' enable' jsonStr)) =
        text.parse (Editor.store text e' enable' (Editor.store text e enable jsonStr))) ∧
    ∀ e enable enable' jsonStr, text.parse (Editor.store text e enable' (Editor.store text e enable jsonStr)) =
      text.parse (Editor.store text e enable' jsonStr) := by
  refine ⟨fun e enable jsonStr before node after hparse hfirst => edits_of_parse hparse hfirst,
    fun e e' enable enable' jsonStr hne => ?_, fun e enable enable' jsonStr => ?_⟩
  · rw [parse_store, parse_store, parse_store, parse_store]
    cases text.parse jsonStr with
    | none => rfl
    | some json => simp [editTree_comm (name_injective hne)]
  · rw [parse_store, parse_store, parse_store]
    cases text.parse jsonStr with
    | none => rfl
    | some json => simp [editTree_editTree]

end Edits

def digitValue (value : Fin 10) : Int32 :=
  Int32.ofNat value

/-- The touchscreen is on, and the lid says nothing. -/
def doubleClickOn : List (String × Json (Fin 10)) :=
  [("touchscreen", .object [("enable", .bool true), ("click", .number 2)]), ("lid", .object [])]

theorem edit_sources_doubleClickOn :
    Edits compact digitValue .touchscreen false (compact.print (.object doubleClickOn)) []
      [("enable", .bool true), ("click", .number 2)] [("lid", .object [])] :=
  (edit_sources compact digitValue).1 .touchscreen false _ [] _ _ (compact.parse_print (.object doubleClickOn)) (by simp)

/-- One source, which says nothing. -/
def bare (e : Editor) : String :=
  compact.print (.object [(e.name, .object [])])

theorem reads_bare (e : Editor) :
    Reads digitValue compact (bare e) (sources digitValue [(e.name, .object [])]) :=
  reads_of_parse digitValue (compact.parse_print _)

/-- A source without `enable` is read as enabled after it was switched off: one editor stores nothing,
the other one the text it found. -/
theorem edit_sources_bare :
    (wakeupParseJsonConfig compact false (bare .touchscreen) = none ∧
      ¬ Reads digitValue compact (Editor.store compact .touchscreen false (bare .touchscreen)) []) ∧
    lidWakeupParseJsonConfig compact false (bare .lid) = some (bare .lid) ∧
      ¬ Reads digitValue compact (Editor.store compact .lid false (bare .lid)) [] := by
  have hparse (e : Editor) : compact.parse (bare e) = some (.object [(e.name, .object [])]) := compact.parse_print _
  have htouchscreen : wakeupParseJsonConfig compact false (bare .touchscreen) = none := by
    simp [wakeupParseJsonConfig, parseJsonConfig, hparse, Editor.name, lookup]
  have hlid : lidWakeupParseJsonConfig compact false (bare .lid) = some (bare .lid) := by
    rw [lidWakeupParseJsonConfig, hparse]
    rfl
  have hnot (e : Editor) : ¬ Reads digitValue compact (bare e) [] := by
    intro hreads
    have hlist := (hreads true {}).symm.trans (reads_bare e true {})
    cases e <;> exact absurd hlist (by decide)
  refine ⟨⟨htouchscreen, ?_⟩, hlid, ?_⟩
  · rw [Editor.store, Editor.run, htouchscreen]
    exact hnot .touchscreen
  · rw [Editor.store, Editor.run, hlid]
    exact hnot .lid

end PowerMgr.Wakeup.Sources
