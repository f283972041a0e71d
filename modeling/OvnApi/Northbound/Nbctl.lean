import OvnApi.Northbound.Database
import OvnApi.Traces.Evidence

/-! The commands of `ovn-nbctl` that a probe issues, in the forms it issues them.
A command line is one transaction: its commands run one after the other on the
rows, an error of one of them undoes everything, and the commit at the end
collects what lost its last reference. New rows take their UUIDs from a supply. -/

namespace OvnApi.Northbound

open OvnApi.Core Lib Traces

def quad (a b c d : ℕ) : String :=
  toString a ++ "." ++ toString b ++ "." ++ toString c ++ "." ++ toString d

/-- The address functions of the C library the commands call. A dotted quad is an
IPv4 address and, taken as a network, its own normal form. -/
structure AddressLib where
  normalizeIpv4Addr : String → Option String
  normalizeIpv6Addr : String → Option String
  normalizeIpv4Net : String → Option String
  normalizeIpv6Net : String → Option String
  isMac : String → Bool
  isCidr : String → Bool
  inNetworks : RouterPort → String → Bool
  ipv4Addr_quad : ∀ a b c d, a < 256 → b < 256 → c < 256 → d < 256 →
    normalizeIpv4Addr (quad a b c d) = some (quad a b c d)
  ipv4Net_quad : ∀ a b c d, a < 256 → b < 256 → c < 256 → d < 256 →
    normalizeIpv4Net (quad a b c d) = some (quad a b c d)

/-- `normalize_prefix_str`. -/
def AddressLib.normalizeNet (lib : AddressLib) (s : String) : Option String :=
  match lib.normalizeIpv4Net s with
  | some t => some t
  | none => lib.normalizeIpv6Net s

structure Txn where
  content : Content
  supply : List Uuid

/-! ### Changes of the rows -/

def Content.modify (c : Content) (u : Uuid) (col : Column) (f : List Uuid → List Uuid) : Content :=
  { c with
    datapaths := c.datapaths.updateAll (fun d => if d.uuid = u then d.modify col f else d)
      fun d => by
        split_ifs
        · cases col <;> rfl
        · rfl }

def Content.removeDatapath (c : Content) (u : Uuid) : Content :=
  { c with datapaths := c.datapaths.filter fun d => d.uuid ≠ u }

def Txn.insertDatapath (t : Txn) (kind : DatapathKind) (name : String) : Except String Txn :=
  match t.supply with
  | [] => .error "no UUID left"
  | uuid :: supply =>
    if uuid ∈ t.content.leaves.rows.map Leaf.uuid then .error "UUID in use"
    else match t.content.datapaths.insert { uuid, kind, name } with
      | some datapaths => .ok { content := { t.content with datapaths }, supply }
      | none => .error "UUID in use"

def Txn.insertLeaf (t : Txn) (parent : Uuid) (col : Column) (columns : Columns) :
    Except String Txn :=
  match t.supply with
  | [] => .error "no UUID left"
  | uuid :: supply =>
    if uuid ∈ t.content.datapaths.rows.map Datapath.uuid then .error "UUID in use"
    else match t.content.leaves.insert { uuid, columns } with
      | some leaves =>
        .ok { content := ({ t.content with leaves }).modify parent col (· ++ [uuid]), supply }
      | none => .error "UUID in use"

/-! ### Lookups by name or UUID -/

def DatapathKind.noun : DatapathKind → String
  | .switch => "switch"
  | .router => "router"

def DatapathKind.plural : DatapathKind → String
  | .switch => "logical switches"
  | .router => "logical routers"

section Lookup

variable (kind : DatapathKind) (c : Content) (id : String)

def findDatapath : Except String (Option Datapath) :=
  match (Uuid.fromString id).bind fun u => (c.datapaths.find u).filter (·.kind = kind) with
  | some d => .ok (some d)
  | none =>
    match c.datapaths.rows.filter fun d => d.kind = kind ∧ d.name = id with
    | [] => .ok none
    | [d] => .ok (some d)
    | _ => .error ("Multiple " ++ kind.plural ++ " named '" ++ id ++ "'.  Use a UUID.")

def notFound : String :=
  id ++ ": " ++ kind.noun ++ (if (Uuid.fromString id).isSome then " UUID" else " name") ++
    " not found"

def requireDatapath : Except String Datapath := do
  match ← findDatapath kind c id with
  | some d => pure d
  | none => .error (notFound kind id)

/-- `lsp_by_name_or_uuid` and `lrp_by_name_or_uuid`. -/
def findPort : Option Leaf :=
  match (Uuid.fromString id).bind fun u =>
    (c.leaves.find u).filter fun leaf => (leaf.columns.portName kind).isSome with
  | some leaf => some leaf
  | none => c.leaves.rows.find? fun leaf => leaf.columns.portName kind = some id

/-- `lsp_to_ls` and `lrp_to_lr`: the first datapath with a port of this name. -/
def findOwner (name : String) : Option Datapath :=
  c.datapaths.rows.find? fun d => d.kind = kind ∧
    d.ports.any fun u => (c.leaves.find u).bind (fun leaf => leaf.columns.portName kind) = some name

end Lookup

/-! ### Switches and routers -/

section Datapaths

variable (kind : DatapathKind) (t : Txn)

def datapathAdd (name : String) : Except String Txn :=
  if t.content.datapaths.rows.any fun d => d.kind = kind ∧ d.name = name then
    .error (name ++ ": a " ++ kind.noun ++ " with this name already exists")
  else t.insertDatapath kind name

def datapathDel (ifExists : Bool) (id : String) : Except String Txn := do
  match ← findDatapath kind t.content id with
  | some d => pure { t with content := t.content.removeDatapath d.uuid }
  | none => if ifExists then pure t else .error (notFound kind id)

def portDel (ifExists : Bool) (id : String) : Except String Txn :=
  match findPort kind t.content id with
  | none =>
    if ifExists then .ok t
    else .error (id ++ (if (Uuid.fromString id).isSome then ": port UUID" else ": port name") ++
      " not found")
  | some leaf =>
    let name := (leaf.columns.portName kind).getD ""
    match findOwner kind t.content name with
    | some d => .ok { t with content := t.content.modify d.uuid .ports (·.filter (· ≠ leaf.uuid)) }
    | none => .error ("port " ++ name ++ " is not part of any logical " ++ kind.noun)

end Datapaths

def nbctlLsAdd (t : Txn) (name : String) : Except String Txn := datapathAdd .switch t name

def nbctlLrAdd (t : Txn) (name : String) : Except String Txn := datapathAdd .router t name

def nbctlLsDel (t : Txn) (ifExists : Bool) (id : String) : Except String Txn :=
  datapathDel .switch t ifExists id

def nbctlLrDel (t : Txn) (ifExists : Bool) (id : String) : Except String Txn :=
  datapathDel .router t ifExists id

def nbctlLspDel (t : Txn) (ifExists : Bool) (id : String) : Except String Txn :=
  portDel .switch t ifExists id

def nbctlLrpDel (t : Txn) (ifExists : Bool) (id : String) : Except String Txn :=
  portDel .router t ifExists id

def nbctlLspAdd (t : Txn) (ls name : String) : Except String Txn := do
  let d ← requireDatapath .switch t.content ls
  if (findPort .switch t.content name).isSome then
    .error (name ++ ": a port with this name already exists")
  else t.insertLeaf d.uuid .ports (.switchPort name)

/-- `nbctl_lrp_add`, without settings. -/
def nbctlLrpAdd (lib : AddressLib) (t : Txn) (lr name mac : String) (networks : List String) :
    Except String Txn := do
  let d ← requireDatapath .router t.content lr
  if !lib.isMac mac then .error (name ++ ": invalid mac address " ++ mac)
  else if (findPort .router t.content name).isSome then
    .error (name ++ ": a port with this name already exists")
  else match networks.find? fun network => !lib.isCidr network with
    | some network => .error (name ++ ": invalid network address: " ++ network)
    | none => t.insertLeaf d.uuid .ports (.routerPort { name, mac, networks })

/-! ### ACLs -/

/-- `parse_direction`: the first letter decides. -/
def parseDirection (arg : String) : Except String String :=
  match arg.toList.head? with
  | some 't' => .ok "to-lport"
  | some 'f' => .ok "from-lport"
  | _ => .error (arg ++ ": direction must be \"to-lport\" or \"from-lport\"")

/-- `parse_priority` of a plain numeral. -/
def parsePriority (arg : String) : Except String ℤ :=
  match parseDigits arg with
  | .ok n => if n ≤ 32767 then .ok n else .error (arg ++ ": priority must in range 0...32767")
  | .error _ => .error (arg ++ ": priority must in range 0...32767")

/-- `acl_cmp` finds no difference. -/
def Acl.same (a b : Acl) : Bool :=
  a.direction = b.direction && a.applyAfterLb = b.applyAfterLb && a.priority = b.priority &&
    a.tier = b.tier && a.matchText = b.matchText

def Columns.isAcl (p : Acl → Bool) : Columns → Bool
  | .acl row => p row
  | _ => false

def Content.anyLeaf (c : Content) (us : List Uuid) (p : Columns → Bool) : Bool :=
  us.any fun u => match c.leaves.find u with
    | some leaf => p leaf.columns
    | none => false

def aclActions : List String :=
  ["allow", "allow-related", "allow-stateless", "drop", "reject", "pass"]

/-- `nbctl_acl_add --type=switch`. A name turns logging on. -/
def nbctlAclAdd (t : Txn) (name : Option String) (ls direction priority matchText action : String) :
    Except String Txn := do
  let d ← requireDatapath .switch t.content ls
  let direction ← parseDirection direction
  let priority ← parsePriority priority
  if action ∉ aclActions then
    .error (action ++ ": action must be one of \"allow\", \"allow-related\", " ++
      "\"allow-stateless\", \"drop\", and \"reject\"")
  else
    let acl : Acl := { name, direction, priority, matchText, action, log := name.isSome }
    if t.content.anyLeaf d.rules (Columns.isAcl (Acl.same acl)) then
      .error ("Same ACL already existed on the ls " ++ ls ++ ".")
    else t.insertLeaf d.uuid .rules (.acl acl)

/-- The ACLs `acl-del` takes: the tier plays no part. -/
def aclDelMatching (direction : String) (priority : ℤ) (matchText : String) : Columns → Bool :=
  Columns.isAcl fun acl =>
    acl.direction = direction && acl.priority = priority && acl.matchText = matchText

/-- Keep the references to rows that do not satisfy `p`. -/
def Content.keepLeaves (c : Content) (p : Columns → Bool) (us : List Uuid) : List Uuid :=
  us.filter fun u => !c.anyLeaf [u] p

/-- `nbctl_acl_del --type=switch` with direction, priority and match. -/
def nbctlAclDel (t : Txn) (ls direction priority matchText : String) : Except String Txn := do
  let d ← requireDatapath .switch t.content ls
  let direction ← parseDirection direction
  let priority ← parsePriority priority
  pure { t with
    content := t.content.modify d.uuid .rules
      (t.content.keepLeaves (aclDelMatching direction priority matchText)) }

/-! ### NAT rules -/

def natTypes : List String := ["dnat", "snat", "dnat_and_snat"]

def Columns.isNat (p : NatRule → Bool) : Columns → Bool
  | .nat row => p row
  | _ => false

def gatewayPorts (c : Content) (d : Datapath) : List (Uuid × RouterPort) :=
  d.ports.filterMap fun u => match c.leaves.find u with
    | some ⟨_, .routerPort port⟩ => if port.gateway then some (u, port) else none
    | _ => none

/-- The error of `lr-nat-add` for an existing rule: one with the same key, on the same
gateway port if there are several, or one that shares the external address with
a stateless rule. The C code crashes on a rule whose stateless option is unset. -/
def natConflict (lib : AddressLib) (gateways : List (Uuid × RouterPort))
    (gateway : Option (Uuid × RouterPort)) (natType newExternalIp newLogicalIp : String)
    (nat : NatRule) : Option String :=
  match lib.normalizeNet nat.externalIp, lib.normalizeNet nat.logicalIp with
  | some oldExternalIp, some oldLogicalIp =>
    let sameGateway := gateways.length ≤ 1 ||
      match nat.gatewayPort with
      | some port => gateway.map Prod.fst = some port
      | none => gateway.any fun g => lib.inNetworks g.2 oldExternalIp
    let addresses := newExternalIp ++ ", " ++ newLogicalIp
    let (key, new, old) :=
      if natType = "snat" then ("logical_ip", newLogicalIp, oldLogicalIp)
      else ("external_ip", newExternalIp, oldExternalIp)
    -- the later error is the one reported
    if (natType = "dnat_and_snat" || nat.type = "dnat_and_snat") && oldExternalIp = newExternalIp &&
        (nat.stateless = some "true" || nat.stateless = none) then
      some (addresses ++ ": External ip cannot be shared across stateless and stateful NATs")
    else if natType = nat.type && sameGateway && new = old then
      some (if newExternalIp = oldExternalIp ∧ newLogicalIp = oldLogicalIp then
          addresses ++ ": a NAT with this external_ip and logical_ip already exists"
        else "a NAT with this type (" ++ natType ++ "), " ++ key ++ " (" ++ new ++ ") already exists")
    else none
  | _, _ => none

/-- `nbctl_lr_nat_add` without options, port and mac. -/
def nbctlLrNatAdd (lib : AddressLib) (t : Txn) (lr natType externalIp logicalIp : String) :
    Except String Txn := do
  let d ← requireDatapath .router t.content lr
  if natType ∉ natTypes then
    .error (natType ++ ": type must be one of \"dnat\", \"snat\" and \"dnat_and_snat\".")
  else
    let (newExternalIp, isV6) ←
      match lib.normalizeIpv4Addr externalIp with
      | some ip => pure (ip, false)
      | none => match lib.normalizeIpv6Addr externalIp with
        | some ip => pure (ip, true)
        | none => .error (externalIp ++ ": Not a valid IPv4 or IPv6 address.")
    let normalizeLogical :=
      if natType = "snat" then if isV6 then lib.normalizeIpv6Net else lib.normalizeIpv4Net
      else if isV6 then lib.normalizeIpv6Addr else lib.normalizeIpv4Addr
    let family := if isV6 then "IPv6" else "IPv4"
    match normalizeLogical logicalIp with
    | none =>
      .error (logicalIp ++ if natType = "snat" then ": should be an " ++ family ++ " address or network."
        else ": Not a valid " ++ family ++ " address.")
    | some newLogicalIp =>
      let gateways := gatewayPorts t.content d
      let gateway := gateways.reverse.find? fun g => lib.inNetworks g.2 newExternalIp
      if 1 < gateways.length && gateway.isNone then
        .error ("logical router: " ++ lr ++ " has multiple distributed gateway ports and " ++
          "gateway_port can not be determined from external IP of NAT rule.")
      else
        let conflict := d.rules.findSome? fun u => match t.content.leaves.find u with
          | some ⟨_, .nat nat⟩ =>
            natConflict lib gateways gateway natType newExternalIp newLogicalIp nat
          | _ => none
        match conflict with
        | some error => .error error
        | none => t.insertLeaf d.uuid .rules (.nat {
            type := natType, externalIp, logicalIp := newLogicalIp, stateless := some "false" })

/-- The rules `lr_nat_del_matching` takes, by their type and, if it is given, the
address that identifies them. -/
def natDelMatching (lib : AddressLib) (natType : String) (ip : Option String)
    (gateway : Option Uuid) : Columns → Bool :=
  Columns.isNat fun nat =>
    match lib.normalizeNet (if natType = "snat" then nat.logicalIp else nat.externalIp) with
    | none => false
    | some oldIp =>
      natType = nat.type && (ip = none || ip = some oldIp) &&
        (gateway = none || nat.gatewayPort = gateway)

/-- `nbctl_lr_nat_del` with a router, a type and an address. What is no address is
taken as the name of a gateway port. -/
def nbctlLrNatDel (lib : AddressLib) (t : Txn) (lr natType ip : String) : Except String Txn := do
  let d ← requireDatapath .router t.content lr
  if natType ∉ natTypes then
    .error (natType ++ ": type must be one of \"dnat\", \"snat\" and \"dnat_and_snat\".")
  else
    let gateway ←
      match lib.normalizeNet ip with
      | some _ => pure none
      | none => match findPort .router t.content ip with
        | some leaf => pure (some leaf.uuid)
        | none => .error (ip ++ ": port name not found")
    pure { t with
      content := t.content.modify d.uuid .rules
        (t.content.keepLeaves (natDelMatching lib natType (lib.normalizeNet ip) gateway)) }

/-! ### Command lines -/

inductive Command where
  | lsAdd (name : String)
  | lsDel (ifExists : Bool) (id : String)
  | lspAdd (ls name : String)
  | lspDel (ifExists : Bool) (id : String)
  | lrAdd (name : String)
  | lrDel (ifExists : Bool) (id : String)
  | lrpAdd (lr name mac : String) (networks : List String)
  | lrpDel (ifExists : Bool) (id : String)
  | aclAdd (name : Option String) (ls direction priority matchText action : String)
  | aclDel (ls direction priority matchText : String)
  | lrNatAdd (lr natType externalIp logicalIp : String)
  | lrNatDel (lr natType ip : String)
  deriving DecidableEq

def exec (lib : AddressLib) (t : Txn) : Command → Except String Txn
  | .lsAdd name => nbctlLsAdd t name
  | .lsDel ifExists id => nbctlLsDel t ifExists id
  | .lspAdd ls name => nbctlLspAdd t ls name
  | .lspDel ifExists id => nbctlLspDel t ifExists id
  | .lrAdd name => nbctlLrAdd t name
  | .lrDel ifExists id => nbctlLrDel t ifExists id
  | .lrpAdd lr name mac networks => nbctlLrpAdd lib t lr name mac networks
  | .lrpDel ifExists id => nbctlLrpDel t ifExists id
  | .aclAdd name ls direction priority matchText action =>
    nbctlAclAdd t name ls direction priority matchText action
  | .aclDel ls direction priority matchText => nbctlAclDel t ls direction priority matchText
  | .lrNatAdd lr natType externalIp logicalIp => nbctlLrNatAdd lib t lr natType externalIp logicalIp
  | .lrNatDel lr natType ip => nbctlLrNatDel lib t lr natType ip

def isOption (arg : String) : Bool := startsWith "--" arg

/-- Whether `--if-exists` is given, if no other option is. -/
def ifExistsOnly : List String → Option Bool
  | [] => some false
  | ["--if-exists"] => some true
  | _ => none

/-- The name given to an ACL on a switch. -/
def aclOptions : List String → Option (Option String)
  | ["--type=switch"] => some none
  | ["--type=switch", arg] =>
    if startsWith "--name=" arg then some (some (String.ofList (arg.toList.drop 7))) else none
  | _ => none

def parseCommand (argv : List String) : Option Command :=
  let options := argv.takeWhile isOption
  match argv.dropWhile isOption with
  | ["ls-add", name] => if options = [] then some (.lsAdd name) else none
  | ["ls-del", id] => (ifExistsOnly options).map fun b => .lsDel b id
  | ["lsp-add", ls, name] => if options = [] then some (.lspAdd ls name) else none
  | ["lsp-del", id] => (ifExistsOnly options).map fun b => .lspDel b id
  | ["lr-add", name] => if options = [] then some (.lrAdd name) else none
  | ["lr-del", id] => (ifExistsOnly options).map fun b => .lrDel b id
  | "lrp-add" :: lr :: name :: mac :: networks =>
    if options = [] then some (.lrpAdd lr name mac networks) else none
  | ["lrp-del", id] => (ifExistsOnly options).map fun b => .lrpDel b id
  | ["acl-add", ls, direction, priority, matchText, action] =>
    (aclOptions options).map fun name => .aclAdd name ls direction priority matchText action
  | ["acl-del", ls, direction, priority, matchText] =>
    if options = ["--type=switch"] then some (.aclDel ls direction priority matchText) else none
  | ["lr-nat-add", lr, natType, externalIp, logicalIp] =>
    if options = [] then some (.lrNatAdd lr natType externalIp logicalIp) else none
  | ["lr-nat-del", lr, natType, ip] => (ifExistsOnly options).map fun _ => .lrNatDel lr natType ip
  | _ => none

def splitCommands : List String → List (List String)
  | [] => [[]]
  | "--" :: rest => [] :: splitCommands rest
  | arg :: rest =>
    match splitCommands rest with
    | [] => [[arg]]
    | command :: commands => (arg :: command) :: commands

def parse (argv : List String) : Option (List Command) := (splitCommands argv).mapM parseCommand

def transact (lib : AddressLib) (db : NbDb) (supply : List Uuid) (commands : List Command) :
    Except String NbDb := do
  let t ← commands.foldlM (exec lib) { content := db.content, supply }
  commit t.content

def nbctl (lib : AddressLib) (db : NbDb) (supply : List Uuid) (argv : List String) :
    Except String NbDb :=
  match parse argv with
  | some commands => transact lib db supply commands
  | none => .error "unknown command or option"

end OvnApi.Northbound
