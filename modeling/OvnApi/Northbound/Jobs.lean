import OvnApi.Northbound.Nbctl
import OvnApi.Traces.Build

/-! The commands of a probe, read as `ovn-nbctl` reads them. A probe creates a
datapath of its own with one port, or hangs one row on a datapath: on the target
its request names, or on a temporary one under its own name. -/

namespace OvnApi.Northbound

open OvnApi.Core Lib Traces

/-- What a probe hangs on a datapath. -/
inductive Item where
  | acl
  | nat
  | switchPort
  | routerPort
  deriving DecidableEq

def Item.kind : Item → DatapathKind
  | .acl | .switchPort => .switch
  | .nat | .routerPort => .router

def Item.column : Item → Column
  | .acl | .nat => .rules
  | .switchPort | .routerPort => .ports

inductive Job where
  | root (kind : DatapathKind)
  | hang (item : Item) (target : Option Uuid)
  deriving DecidableEq

def Job.target : Job → Option Uuid
  | .root _ => none
  | .hang _ target => target

def DatapathKind.table : DatapathKind → String
  | .switch => "Logical_Switch"
  | .router => "Logical_Router"

def DatapathKind.addWord : DatapathKind → String
  | .switch => "ls-add"
  | .router => "lr-add"

def DatapathKind.delWord : DatapathKind → String
  | .switch => "ls-del"
  | .router => "lr-del"

def Job.resolved : Job → ResolvedType
  | .root .switch => .logicalSwitch
  | .root .router => .logicalRouter
  | .hang .acl _ => .acl
  | .hang .nat _ => .nat
  | .hang .switchPort _ => .logicalSwitchPort
  | .hang .routerPort _ => .logicalRouterPort

def Job.kind : Job → DatapathKind
  | .root kind => kind
  | .hang item _ => item.kind

section Commands

variable (probeId : Uuid)

def targetName : DatapathKind → String
  | .switch => "canary-target-ls-" ++ probeId.firstSegment
  | .router => "canary-target-lr-" ++ probeId.firstSegment

def anchorName : DatapathKind → String
  | .switch => "canary-ls-anchor-" ++ probeId.firstSegment
  | .router => "canary-lr-anchor-" ++ probeId.firstSegment

def rootName : DatapathKind → String
  | .switch => "canary-ls-" ++ probeId.firstSegment
  | .router => "canary-lr-" ++ probeId.firstSegment

def portName : DatapathKind → String
  | .switch => "canary-lsp-" ++ probeId.firstSegment
  | .router => "canary-lrp-" ++ probeId.firstSegment

def aclName : String := "canary-acl-" ++ probeId.firstSegment

def aclMatchText : String := "ip4.src==" ++ aclProbeIp probeId

def targetRef (kind : DatapathKind) : Option Uuid → String
  | some target => target.text
  | none => targetName probeId kind

def addDatapath (name : String) : DatapathKind → Command
  | .switch => .lsAdd name
  | .router => .lrAdd name

def removeDatapath (name : String) : DatapathKind → Command
  | .switch => .lsDel true name
  | .router => .lrDel true name

def Job.setup : Job → List (List Command)
  | .root _ => []
  | .hang item none => [[addDatapath (targetName probeId item.kind) item.kind]]
  | .hang _ (some _) => []

def Job.create : Job → List Command
  | .root .switch =>
    [.lsAdd (rootName probeId .switch),
      .lspAdd (rootName probeId .switch) (anchorName probeId .switch)]
  | .root .router =>
    [.lrAdd (rootName probeId .router),
      .lrpAdd (rootName probeId .router) (anchorName probeId .router) (probeMac probeId)
        [routerNetwork probeId]]
  | .hang .acl target =>
    [.aclAdd (some (aclName probeId)) (targetRef probeId .switch target) "to-lport" "2001"
      (aclMatchText probeId) "drop"]
  | .hang .nat target =>
    [.lrNatAdd (targetRef probeId .router target) "snat" (natExternalIp probeId)
      (natLogicalIp probeId)]
  | .hang .switchPort target =>
    [.lspAdd (targetRef probeId .switch target) (portName probeId .switch)]
  | .hang .routerPort target =>
    [.lrpAdd (targetRef probeId .router target) (portName probeId .router) (probeMac probeId)
      [routerNetwork probeId]]

def Item.remove (target : Option Uuid) : Item → Command
  | .acl => .aclDel (targetRef probeId .switch target) "to-lport" "2001" (aclMatchText probeId)
  | .nat => .lrNatDel (targetRef probeId .router target) "snat" (natLogicalIp probeId)
  | .switchPort => .lspDel true (portName probeId .switch)
  | .routerPort => .lrpDel true (portName probeId .router)

def Job.cleanup : Job → List (List Command)
  | .root kind => [[removeDatapath (rootName probeId kind) kind]]
  | .hang item none =>
    [[item.remove probeId none], [removeDatapath (targetName probeId item.kind) item.kind]]
  | .hang item (some target) => [[item.remove probeId (some target)]]

end Commands

/-- The command lines of the prepared probe are those of the job. -/
structure Runs (prepared : PreparedProbe) (probeId : Uuid) (job : Job) : Prop where
  setup : prepared.setupCommands.map parse = (job.setup probeId).map some
  create : parse prepared.createCommand = some (job.create probeId)
  cleanup : prepared.cleanupCommands.map parse = (job.cleanup probeId).map some

/-! ### Reading the command lines -/

/-- An argument that is neither an option nor a separator. -/
def Word (s : String) : Prop := ∃ c cs, s.toList = c :: cs ∧ c ≠ '-'

theorem Word.append {a : String} (h : Word a) (b : String) : Word (a ++ b) := by
  obtain ⟨c, cs, ha, hc⟩ := h
  exact ⟨c, cs ++ b.toList, by rw [String.toList_append, ha]; rfl, hc⟩

theorem Word.ne_separator {s : String} (h : Word s) : s ≠ "--" := by
  obtain ⟨c, cs, hs, hc⟩ := h
  rintro rfl
  have : c = '-' := by
    have h : "--".toList = ['-', '-'] := rfl
    rw [h] at hs
    exact (List.cons.inj hs).1.symm
  exact hc this

theorem word_uuid (u : Uuid) : Word u.text := by
  have hu := u.canonical
  unfold isUuidText at hu
  cases htext : u.text.toList with
  | nil => rw [htext] at hu; cases hu
  | cons c cs =>
    refine ⟨c, cs, htext, ?_⟩
    rintro rfl
    rw [htext] at hu
    cases hu

/-- A name of the probe itself. -/
def Canary (s : String) : Prop := ∃ cs, s.toList = 'c' :: 'a' :: 'n' :: cs

theorem Canary.append {a : String} (h : Canary a) (b : String) : Canary (a ++ b) := by
  obtain ⟨cs, ha⟩ := h
  exact ⟨cs ++ b.toList, by rw [String.toList_append, ha]; rfl⟩

theorem Canary.word {s : String} (h : Canary s) : Word s := by
  obtain ⟨cs, hs⟩ := h
  exact ⟨_, _, hs, by decide⟩

/-- No name of a probe reads as a UUID. -/
theorem Canary.fromString {s : String} (h : Canary s) : Uuid.fromString s = none := by
  obtain ⟨cs, hs⟩ := h
  have hshape : isUuidText (lower s) = false := by
    rw [isUuidText, lower, hs, String.toList_ofList]
    rfl
  rw [Uuid.fromString, dif_neg (by rw [hshape]; exact Bool.false_ne_true)]

theorem splitCommands_of_words {argv : List String} (h : ∀ arg ∈ argv, arg ≠ "--") :
    splitCommands argv = [argv] := by
  induction argv with
  | nil => rfl
  | cons arg argv ih =>
    have harg := h arg List.mem_cons_self
    have hrest := ih fun a ha => h a (List.mem_cons_of_mem _ ha)
    simp [splitCommands, hrest]

theorem splitCommands_append {argv rest : List String} (h : ∀ arg ∈ argv, arg ≠ "--")
    (hrest : ∀ arg ∈ rest, arg ≠ "--") : splitCommands (argv ++ "--" :: rest) = [argv, rest] := by
  induction argv with
  | nil => rw [List.nil_append, splitCommands, splitCommands_of_words hrest]
  | cons arg argv ih =>
    have harg := h arg List.mem_cons_self
    have happend := ih fun a ha => h a (List.mem_cons_of_mem _ ha)
    simp [splitCommands, happend]

theorem parse_of_words (argv : List String) {command : Command} (h : ∀ arg ∈ argv, arg ≠ "--")
    (hcommand : parseCommand argv = some command) : parse argv = some [command] := by
  rw [parse, splitCommands_of_words h]
  simp [hcommand]

theorem parse_append (argv rest : List String) {first second : Command}
    (h : ∀ arg ∈ argv, arg ≠ "--") (hrest : ∀ arg ∈ rest, arg ≠ "--")
    (hfirst : parseCommand argv = some first) (hsecond : parseCommand rest = some second) :
    parse (argv ++ "--" :: rest) = some [first, second] := by
  rw [parse, splitCommands_append h hrest]
  simp [hfirst, hsecond]

section Names

variable (probeId : Uuid)

theorem canary_targetName (kind : DatapathKind) : Canary (targetName probeId kind) := by
  cases kind <;> exact Canary.append ⟨_, rfl⟩ _

theorem canary_portName (kind : DatapathKind) : Canary (portName probeId kind) := by
  cases kind <;> exact Canary.append ⟨_, rfl⟩ _

theorem canary_rootName (kind : DatapathKind) : Canary (rootName probeId kind) := by
  cases kind <;> exact Canary.append ⟨_, rfl⟩ _

theorem canary_anchorName (kind : DatapathKind) : Canary (anchorName probeId kind) := by
  cases kind <;> exact Canary.append ⟨_, rfl⟩ _

theorem word_targetRef (kind : DatapathKind) (target : Option Uuid) :
    Word (targetRef probeId kind target) := by
  cases target with
  | none => exact (canary_targetName probeId kind).word
  | some u => exact word_uuid u

theorem word_aclMatchText : Word (aclMatchText probeId) := Word.append ⟨_, _, rfl, by decide⟩ _

theorem word_natExternalIp : Word (natExternalIp probeId) := Word.append ⟨_, _, rfl, by decide⟩ _

theorem word_natLogicalIp : Word (natLogicalIp probeId) :=
  ((Word.append ⟨_, _, rfl, by decide⟩ _).append _).append _

theorem word_probeMac : Word (probeMac probeId) := by
  unfold probeMac
  exact ((((((Word.append ⟨_, _, rfl, by decide⟩ _).append _).append _).append _).append _).append
    _).append _

theorem word_routerNetwork : Word (routerNetwork probeId) :=
  (Word.append ⟨_, _, rfl, by decide⟩ _).append _

end Names

theorem isOption_name (name : String) : isOption ("--name=" ++ name) = true := by
  simp [isOption, startsWith, String.toList_append]

theorem name_ne_separator (name : String) : "--name=" ++ name ≠ "--" := by
  intro h
  have hlist := congrArg String.toList h
  simp [String.toList_append] at hlist

theorem parseCommand_aclAdd (name ls matchText : String) :
    parseCommand ["--type=switch", "--name=" ++ name, "acl-add", ls, "to-lport", "2001", matchText,
      "drop"] = some (.aclAdd (some name) ls "to-lport" "2001" matchText "drop") := by
  have htype : isOption "--type=switch" = true := rfl
  have hcommand : isOption "acl-add" = false := rfl
  have hoption : aclOptions ["--type=switch", "--name=" ++ name] = some (some name) := by
    simp [aclOptions, startsWith, String.toList_append]
  simp [parseCommand, List.takeWhile, List.dropWhile, htype, hcommand, isOption_name, hoption]

theorem parse_addTarget (probeId : Uuid) (kind : DatapathKind) :
    parse [kind.addWord, targetName probeId kind] =
      some [addDatapath (targetName probeId kind) kind] := by
  have hname := (canary_targetName probeId kind).word.ne_separator
  cases kind <;> exact parse_of_words _ (by simp [DatapathKind.addWord, hname]) rfl

theorem parse_delTarget (probeId : Uuid) (kind : DatapathKind) :
    parse ["--if-exists", kind.delWord, targetName probeId kind] =
      some [removeDatapath (targetName probeId kind) kind] := by
  have hname := (canary_targetName probeId kind).word.ne_separator
  cases kind <;> exact parse_of_words _ (by simp [DatapathKind.delWord, hname]) rfl

def Found (nb : Except Exc NbIdl) (kind : DatapathKind) (target : Uuid) : Prop :=
  ∃ idl reference row, nb = .ok idl ∧
    findNamedOrUuidRow idl kind.table reference = .ok (some row) ∧ row.uuid = target

/-- The commands around the canary belong to the chosen target. -/
structure Chooses (probeId : Uuid) (kind : DatapathKind) (target : Target) (chosen : Option Uuid) :
    Prop where
  ref : target.ref = targetRef probeId kind chosen
  setup : target.setupCommands.map parse =
    if chosen = none then [some [addDatapath (targetName probeId kind) kind]] else []
  cleanup : target.cleanupCommands.map parse =
    if chosen = none then [some [removeDatapath (targetName probeId kind) kind]] else []

theorem resolveTarget_chooses (probeId : Uuid) (kind : DatapathKind) {nb : Except Exc NbIdl}
    {noun : String} {requested : Option String} {target : Target}
    (h : resolveTarget kind.table noun kind.addWord kind.delWord nb requested
      (targetName probeId kind) = .ok target) :
    ∃ chosen, Chooses probeId kind target chosen ∧ ∀ u ∈ chosen, Found nb kind u := by
  rcases resolveTarget_ok h with ⟨reference, idl, row, -, hnb, hrow, rfl⟩ | ⟨-, href, hs, hc, -⟩
  · refine ⟨some row.uuid, ⟨rfl, rfl, rfl⟩, fun u hu => ?_⟩
    obtain rfl := Option.some.inj hu
    exact ⟨idl, reference, row, hnb, hrow, rfl⟩
  · refine ⟨none, ⟨href, ?_, ?_⟩, fun u hu => absurd hu (Option.not_mem_none u)⟩
    · rw [hs, List.map_singleton, parse_addTarget]
      rfl
    · rw [hc, List.map_singleton, parse_delTarget]
      rfl

section Runs

variable {nb : Except Exc NbIdl} {probeId : Uuid} {request : CanaryProbeRequest}

theorem runs_rootSwitch (requested : ResourceType) :
    Runs (assemble probeId request (logicalSwitchPlan probeId requested)) probeId
      (.root .switch) := by
  have hroot := (canary_rootName probeId .switch).word.ne_separator
  have hanchor := (canary_anchorName probeId .switch).word.ne_separator
  have hdel : parse ["--if-exists", "ls-del", rootName probeId .switch] =
      some [.lsDel true (rootName probeId .switch)] := parse_of_words _ (by simp [hroot]) rfl
  refine ⟨rfl, ?_, congrArg (fun x => [x]) hdel⟩
  exact parse_append ["ls-add", rootName probeId .switch]
    ["lsp-add", rootName probeId .switch, anchorName probeId .switch] (by simp [hroot])
    (by simp [hroot, hanchor]) rfl rfl

theorem runs_rootRouter :
    Runs (assemble probeId request (logicalRouterPlan probeId)) probeId (.root .router) := by
  have hroot := (canary_rootName probeId .router).word.ne_separator
  have hanchor := (canary_anchorName probeId .router).word.ne_separator
  have hmac := (word_probeMac probeId).ne_separator
  have hnetwork := (word_routerNetwork probeId).ne_separator
  have hdel : parse ["--if-exists", "lr-del", rootName probeId .router] =
      some [.lrDel true (rootName probeId .router)] := parse_of_words _ (by simp [hroot]) rfl
  refine ⟨rfl, ?_, congrArg (fun x => [x]) hdel⟩
  exact parse_append ["lr-add", rootName probeId .router]
    ["lrp-add", rootName probeId .router, anchorName probeId .router, probeMac probeId,
      routerNetwork probeId] (by simp [hroot]) (by simp [hroot, hanchor, hmac, hnetwork]) rfl rfl

theorem runs_hang {prepared : PreparedProbe} {item : Item} {target : Target} {chosen : Option Uuid}
    {remove : List String} (h : Chooses probeId item.kind target chosen)
    (hsetup : prepared.setupCommands = target.setupCommands)
    (hcleanup : prepared.cleanupCommands = remove :: target.cleanupCommands)
    (hcreate : parse prepared.createCommand = some (Job.create probeId (.hang item chosen)))
    (hremove : parse remove = some [item.remove probeId chosen]) :
    Runs prepared probeId (.hang item chosen) := by
  refine ⟨?_, hcreate, ?_⟩
  · rw [hsetup, h.setup]
    cases chosen <;> rfl
  · rw [hcleanup, List.map_cons, hremove, h.cleanup]
    cases chosen <;> rfl

section Hang

variable {target : Target} {chosen : Option Uuid}

theorem runs_acl (h : Chooses probeId .switch target chosen) :
    Runs (assemble probeId request (aclPlan probeId target)) probeId (.hang .acl chosen) := by
  have href := (word_targetRef probeId .switch chosen).ne_separator
  have hmatch := (word_aclMatchText probeId).ne_separator
  apply runs_hang h rfl rfl
  · change parse ["--type=switch", "--name=" ++ aclName probeId, "acl-add", target.ref, "to-lport",
      "2001", aclMatchText probeId, "drop"] = _
    rw [h.ref]
    exact parse_of_words _ (by simp [href, hmatch, name_ne_separator]) (parseCommand_aclAdd _ _ _)
  · change parse ["--type=switch", "acl-del", target.ref, "to-lport", "2001",
      aclMatchText probeId] = _
    rw [h.ref]
    exact parse_of_words _ (by simp [href, hmatch]) rfl

theorem runs_nat (h : Chooses probeId .router target chosen) :
    Runs (assemble probeId request (natPlan probeId target)) probeId (.hang .nat chosen) := by
  have href := (word_targetRef probeId .router chosen).ne_separator
  have hexternal := (word_natExternalIp probeId).ne_separator
  have hlogical := (word_natLogicalIp probeId).ne_separator
  apply runs_hang h rfl rfl
  · change parse ["lr-nat-add", target.ref, "snat", natExternalIp probeId,
      natLogicalIp probeId] = _
    rw [h.ref]
    exact parse_of_words _ (by simp [href, hexternal, hlogical]) rfl
  · rw [h.ref]
    exact parse_of_words _ (by simp [href, hlogical]) rfl

theorem runs_switchPort (h : Chooses probeId .switch target chosen) :
    Runs (assemble probeId request (logicalSwitchPortPlan probeId target)) probeId
      (.hang .switchPort chosen) := by
  have href := (word_targetRef probeId .switch chosen).ne_separator
  have hname := (canary_portName probeId .switch).word.ne_separator
  apply runs_hang h rfl rfl
  · change parse ["lsp-add", target.ref, portName probeId .switch] = _
    rw [h.ref]
    exact parse_of_words _ (by simp [href, hname]) rfl
  · exact parse_of_words ["--if-exists", "lsp-del", portName probeId .switch] (by simp [hname]) rfl

theorem runs_routerPort (h : Chooses probeId .router target chosen) (requested : ResourceType) :
    Runs (assemble probeId request (logicalRouterPortPlan probeId requested target)) probeId
      (.hang .routerPort chosen) := by
  have href := (word_targetRef probeId .router chosen).ne_separator
  have hname := (canary_portName probeId .router).word.ne_separator
  have hmac := (word_probeMac probeId).ne_separator
  have hnetwork := (word_routerNetwork probeId).ne_separator
  apply runs_hang h rfl rfl
  · change parse ["lrp-add", target.ref, portName probeId .router, probeMac probeId,
      routerNetwork probeId] = _
    rw [h.ref]
    exact parse_of_words _ (by simp [href, hname, hmac, hnetwork]) rfl
  · exact parse_of_words ["--if-exists", "lrp-del", portName probeId .router] (by simp [hname]) rfl

end Hang

/-- Every plan is that of a job of its kind; a target it names was found in the
database. -/
theorem planned_job {resolved : ResolvedType} {plan : Plan}
    (h : Planned nb probeId request resolved plan) :
    ∃ job : Job, job.resolved = resolved ∧ Runs (assemble probeId request plan) probeId job ∧
      ∀ u ∈ job.target, Found nb job.kind u := by
  cases h with
  | logicalSwitch =>
    exact ⟨.root .switch, rfl, runs_rootSwitch _, fun u hu => absurd hu (Option.not_mem_none u)⟩
  | logicalRouter =>
    exact ⟨.root .router, rfl, runs_rootRouter, fun u hu => absurd hu (Option.not_mem_none u)⟩
  | acl target htarget =>
    obtain ⟨chosen, hchooses, hfound⟩ := resolveTarget_chooses probeId .switch htarget
    exact ⟨.hang .acl chosen, rfl, runs_acl hchooses, hfound⟩
  | nat target htarget =>
    obtain ⟨chosen, hchooses, hfound⟩ := resolveTarget_chooses probeId .router htarget
    exact ⟨.hang .nat chosen, rfl, runs_nat hchooses, hfound⟩
  | logicalSwitchPort target htarget =>
    obtain ⟨chosen, hchooses, hfound⟩ := resolveTarget_chooses probeId .switch htarget
    exact ⟨.hang .switchPort chosen, rfl, runs_switchPort hchooses, hfound⟩
  | logicalRouterPort target htarget =>
    obtain ⟨chosen, hchooses, hfound⟩ := resolveTarget_chooses probeId .router htarget
    exact ⟨.hang .routerPort chosen, rfl, runs_routerPort hchooses _, hfound⟩

theorem buildProbe_job {prepared : PreparedProbe}
    (h : buildProbe nb probeId request = .ok prepared) :
    ∃ job, Runs prepared probeId job ∧ ∀ u ∈ job.target, Found nb job.kind u := by
  obtain ⟨resolved, plan, hplanned, -, rfl⟩ := buildProbe_planned h
  obtain ⟨job, -, hruns, hfound⟩ := planned_job hplanned
  exact ⟨job, hruns, hfound⟩

end Runs

end OvnApi.Northbound
