import FlowRouter.Control.Agreement
import FlowRouter.Control.Network

namespace FlowRouter.Control
open Checks Native
open Native.Binding (GoError)

structure ActionDocument where
  type : String
  srcIpv4 : Option String
  dstIpv4 : Option String
  srcPort : Option UInt16
  dstPort : Option UInt16
  deriving DecidableEq, Repr

structure FlowDocument where
  srcIpv4 : String
  dstIpv4 : String
  srcPort : UInt16
  dstPort : UInt16
  protocol : String
  action : ActionDocument
  deriving DecidableEq, Repr

structure RouteDocument where
  prefixText : String
  action : ActionDocument
  deriving DecidableEq, Repr

/-- The decoder has read the JSON text into this record. -/
structure RulesDocument where
  flows : List FlowDocument
  routes : List RouteDocument
  deriving DecidableEq, Repr

variable (lib : GoLibrary)

def ipv4Number (text : String) : Except GoError UInt32 :=
  let ipv4 := (lib.parseIP text).to4
  if ipv4 = [] then throw (.text s!"{lib.quote text} is not an IPv4 address")
  else return bigEndianUint32 ipv4

/-- The `%w` verb wraps the error of a result after its context. -/
def withContext {A : Type} (context : String) (result : Except GoError A) : Except GoError A :=
  match result with
  | .error cause => .error (.wrap context cause)
  | .ok value => .ok value

/-- A rewrite field that is present sets its bit. -/
def parseField {A B : Type} (read : A → Except GoError B) (bit : UInt8)
    (store : RuleAction → B → RuleAction) (field : Option A) (action : RuleAction) :
    Except GoError RuleAction :=
  match field with
  | none => return action
  | some document => do
      let value ← read document
      let action := store action value
      return { action with rewriteMask := action.rewriteMask ||| bit }

def parseSrcIpv4 : Option String → RuleAction → Except GoError RuleAction :=
  parseField (fun text => withContext "rewrite src_ipv4" (ipv4Number lib text)) dpRewriteSrcIpv4
    fun action value => { action with srcIpv4 := value }

def parseDstIpv4 : Option String → RuleAction → Except GoError RuleAction :=
  parseField (fun text => withContext "rewrite dst_ipv4" (ipv4Number lib text)) dpRewriteDstIpv4
    fun action value => { action with dstIpv4 := value }

def parseSrcPort : Option UInt16 → RuleAction → Except GoError RuleAction :=
  parseField pure dpRewriteSrcPort fun action value => { action with srcPort := value }

def parseDstPort : Option UInt16 → RuleAction → Except GoError RuleAction :=
  parseField pure dpRewriteDstPort fun action value => { action with dstPort := value }

def RuleAction.zero : RuleAction := ⟨0, 0, 0, 0, 0, 0⟩

def parseType (type : String) : Except GoError UInt8 :=
  if type = "drop" then return dpActionDrop
  else if type = "forward" then return dpActionForward
  else if type = "rewrite" then return dpActionRewrite
  else throw (.text s!"unsupported action type {lib.quote type}")

def parseAction (document : ActionDocument) : Except GoError RuleAction := do
  let type ← parseType lib document.type
  let action := { RuleAction.zero with type := type }
  if action.type ≠ dpActionRewrite then
    rejectIf (document.srcIpv4 ≠ none ∨ document.dstIpv4 ≠ none ∨ document.srcPort ≠ none ∨
        document.dstPort ≠ none)
      (GoError.text s!"action {lib.quote document.type} cannot contain rewrite fields")
    return action
  else
    let action ← parseSrcIpv4 lib document.srcIpv4 action
    let action ← parseDstIpv4 lib document.dstIpv4 action
    let action ← parseSrcPort document.srcPort action
    let action ← parseDstPort document.dstPort action
    rejectIf (action.rewriteMask = 0)
      (GoError.text "rewrite action must contain at least one field")
    return action

def parseProtocol (protocol : String) : Except GoError UInt8 :=
  if protocol = "tcp" then return 6
  else if protocol = "udp" then return 17
  else throw (.text s!"unsupported protocol {lib.quote protocol}")

/-- This is the body of the flow loop up to its duplicate check. -/
def normalizeFlow (index : Nat) (item : FlowDocument) :
    Except GoError (List UInt64 × FlowRule) := do
  let src ← withContext s!"flow {index} src_ipv4" (ipv4Number lib item.srcIpv4)
  let dst ← withContext s!"flow {index} dst_ipv4" (ipv4Number lib item.dstIpv4)
  let protocol ← withContext s!"flow {index}" (parseProtocol lib item.protocol)
  let action ← withContext s!"flow {index}" (parseAction lib item.action)
  return ([src.toUInt64, dst.toUInt64, item.srcPort.toUInt64, item.dstPort.toUInt64,
    protocol.toUInt64], ⟨src, dst, item.srcPort, item.dstPort, protocol, action⟩)

/-- This is the body of the route loop up to its duplicate check. -/
def normalizeRoute (index : Nat) (item : RouteDocument) :
    Except GoError (List UInt64 × RouteRule) :=
  let invalid := GoError.text
    s!"route {index} prefix {lib.quote item.prefixText} is not a valid IPv4 CIDR"
  match lib.parseCIDR item.prefixText with
  | none => throw invalid
  | some (address, network) => do
      rejectIf (address.to4 = []) invalid
      let size := IPMask.size network.mask
      rejectIf (size.2 ≠ 32 ∨ size.1 = 0) invalid
      let prefixNumber := bigEndianUint32 network.ip.to4
      let action ← withContext s!"route {index}" (parseAction lib item.action)
      return ([prefixNumber.toUInt64, UInt64.ofNat size.1],
        ⟨prefixNumber, UInt8.ofNat size.1, action⟩)

def normalizeRules (document : RulesDocument) : Except GoError RuleSnapshot := do
  rejectIf (document.flows.length > dpMaxFlowRules)
    (GoError.text s!"flow rule count {document.flows.length} exceeds capacity {dpMaxFlowRules}")
  rejectIf (document.routes.length > dpMaxRouteRules)
    (GoError.text
      s!"route rule count {document.routes.length} exceeds capacity {dpMaxRouteRules}")
  let flows ← collectKeyed (normalizeFlow lib)
    (fun index => GoError.text s!"duplicate flow at index {index}") 0 [] [] document.flows
  let routes ← collectKeyed (normalizeRoute lib)
    (fun index => GoError.text s!"duplicate route at index {index}") 0 [] [] document.routes
  return ⟨flows, routes⟩

/-- This is the number of an IPv4 text. -/
def GoLibrary.ipv4 (text : String) : Option UInt32 :=
  if (lib.parseIP text).to4 = [] then none else some (bigEndianUint32 (lib.parseIP text).to4)

variable {lib}

theorem ipv4Number_ok {text : String} {number : UInt32} :
    ipv4Number lib text = .ok number ↔ lib.ipv4 text = some number := by
  unfold ipv4Number GoLibrary.ipv4
  by_cases missing : (lib.parseIP text).to4 = []
  · simp [missing, throw, throwThe, MonadExceptOf.throw]
  · simp [missing, pure, Except.pure]

theorem withContext_ok {A : Type} {context : String} {result : Except GoError A} {value : A} :
    withContext context result = .ok value ↔ result = .ok value := by
  cases result <;> simp [withContext]

/-- This is the bit of a field that is present. -/
def presentBit {A : Type} (bit : UInt8) (field : Option A) : UInt8 :=
  if field.isSome then bit else 0

/-- These are the bits of the fields that a document contains. -/
def ActionDocument.fieldMask (document : ActionDocument) : UInt8 :=
  presentBit dpRewriteSrcIpv4 document.srcIpv4 ||| presentBit dpRewriteDstIpv4 document.dstIpv4 |||
    presentBit dpRewriteSrcPort document.srcPort ||| presentBit dpRewriteDstPort document.dstPort

/-- A missing field reads as zero. -/
def GoLibrary.address (lib : GoLibrary) : Option String → Option UInt32
  | none => some 0
  | some text => lib.ipv4 text

theorem parseSrcIpv4_ok {field : Option String} {type mask : UInt8} {dst : UInt32}
    {srcPort dstPort : UInt16} {result : RuleAction} :
    parseSrcIpv4 lib field ⟨type, mask, 0, dst, srcPort, dstPort⟩ = .ok result ↔
      ∃ src, lib.address field = some src ∧
        result =
          ⟨type, mask ||| presentBit dpRewriteSrcIpv4 field, src, dst, srcPort, dstPort⟩ := by
  cases field with
  | none =>
    simp [parseSrcIpv4, parseField, GoLibrary.address, presentBit, pure, Except.pure, eq_comm]
  | some text =>
    rw [parseSrcIpv4, parseField, bind_ok]
    simp only [withContext_ok, ipv4Number_ok, GoLibrary.address]
    exact exists_congr fun src => and_congr_right fun _ =>
      ⟨fun same => (Except.ok.inj same).symm, fun same => congrArg Except.ok same.symm⟩

theorem parseDstIpv4_ok {field : Option String} {type mask : UInt8} {src : UInt32}
    {srcPort dstPort : UInt16} {result : RuleAction} :
    parseDstIpv4 lib field ⟨type, mask, src, 0, srcPort, dstPort⟩ = .ok result ↔
      ∃ dst, lib.address field = some dst ∧
        result =
          ⟨type, mask ||| presentBit dpRewriteDstIpv4 field, src, dst, srcPort, dstPort⟩ := by
  cases field with
  | none =>
    simp [parseDstIpv4, parseField, GoLibrary.address, presentBit, pure, Except.pure, eq_comm]
  | some text =>
    rw [parseDstIpv4, parseField, bind_ok]
    simp only [withContext_ok, ipv4Number_ok, GoLibrary.address]
    exact exists_congr fun dst => and_congr_right fun _ =>
      ⟨fun same => (Except.ok.inj same).symm, fun same => congrArg Except.ok same.symm⟩

theorem parseSrcPort_eq (field : Option UInt16) (type mask : UInt8) (src dst : UInt32)
    (dstPort : UInt16) : parseSrcPort field ⟨type, mask, src, dst, 0, dstPort⟩ =
      .ok ⟨type, mask ||| presentBit dpRewriteSrcPort field, src, dst, field.getD 0, dstPort⟩ := by
  cases field with
  | none => simp [parseSrcPort, parseField, presentBit, pure, Except.pure]
  | some port => rfl

theorem parseDstPort_eq (field : Option UInt16) (type mask : UInt8) (src dst : UInt32)
    (srcPort : UInt16) : parseDstPort field ⟨type, mask, src, dst, srcPort, 0⟩ =
      .ok ⟨type, mask ||| presentBit dpRewriteDstPort field, src, dst, srcPort, field.getD 0⟩ := by
  cases field with
  | none => simp [parseDstPort, parseField, presentBit, pure, Except.pure]
  | some port => rfl

/-- A rewrite reads each address field and takes the bits of its fields. -/
theorem parseRewrite_ok {document : ActionDocument} {action : RuleAction}
    (rewrite : document.type = "rewrite") :
    parseAction lib document = .ok action ↔ document.fieldMask ≠ 0 ∧
      ∃ src dst, lib.address document.srcIpv4 = some src ∧
        lib.address document.dstIpv4 = some dst ∧
        action = ⟨dpActionRewrite, document.fieldMask, src, dst, document.srcPort.getD 0,
          document.dstPort.getD 0⟩ := by
  have typed : parseType lib document.type = .ok dpActionRewrite := by
    rw [rewrite]
    rfl
  have mask : 0 ||| presentBit dpRewriteSrcIpv4 document.srcIpv4 |||
      presentBit dpRewriteDstIpv4 document.dstIpv4 |||
      presentBit dpRewriteSrcPort document.srcPort |||
      presentBit dpRewriteDstPort document.dstPort = document.fieldMask := by
    rw [UInt8.zero_or]
    rfl
  have unfolded : parseAction lib document =
      (parseSrcIpv4 lib document.srcIpv4 ⟨dpActionRewrite, 0, 0, 0, 0, 0⟩ >>= fun action =>
        parseDstIpv4 lib document.dstIpv4 action >>= fun action =>
        parseSrcPort document.srcPort action >>= fun action =>
        parseDstPort document.dstPort action >>= fun action =>
        rejectIf (action.rewriteMask = 0)
          (GoError.text "rewrite action must contain at least one field") >>= fun _ =>
        return action) := by
    rw [parseAction, typed]
    rfl
  rw [unfolded, bind_ok]
  constructor
  · rintro ⟨first, parsed, rest⟩
    obtain ⟨src, srcFound, rfl⟩ := parseSrcIpv4_ok.mp parsed
    obtain ⟨second, parsed, rest⟩ := bind_ok.mp rest
    obtain ⟨dst, dstFound, rfl⟩ := parseDstIpv4_ok.mp parsed
    rw [parseSrcPort_eq] at rest
    obtain ⟨third, parsed, rest⟩ := bind_ok.mp rest
    obtain rfl := Except.ok.inj parsed
    rw [parseDstPort_eq] at rest
    obtain ⟨fourth, parsed, rest⟩ := bind_ok.mp rest
    obtain rfl := Except.ok.inj parsed
    rw [guard_ok, rejectIf_ok, mask] at rest
    exact ⟨rest.1, src, dst, srcFound, dstFound, (Except.ok.inj rest.2).symm⟩
  · rintro ⟨present, src, dst, srcFound, dstFound, rfl⟩
    refine ⟨_, parseSrcIpv4_ok.mpr ⟨src, srcFound, rfl⟩, bind_ok.mpr
      ⟨_, parseDstIpv4_ok.mpr ⟨dst, dstFound, rfl⟩, ?_⟩⟩
    rw [parseSrcPort_eq, bind_ok]
    refine ⟨_, rfl, ?_⟩
    rw [parseDstPort_eq, bind_ok]
    refine ⟨_, rfl, ?_⟩
    rw [guard_ok, rejectIf_ok, mask]
    exact ⟨present, rfl⟩

/-- The document has no rewrite field. -/
def ActionDocument.Bare (document : ActionDocument) : Prop :=
  document.srcIpv4 = none ∧ document.dstIpv4 = none ∧ document.srcPort = none ∧
    document.dstPort = none

/-- Each bit of the mask stands for its field. -/
theorem ActionDocument.fieldMask_bits (document : ActionDocument) :
    (document.fieldMask &&& dpRewriteSrcIpv4 ≠ 0 ↔ document.srcIpv4 ≠ none) ∧
      (document.fieldMask &&& dpRewriteDstIpv4 ≠ 0 ↔ document.dstIpv4 ≠ none) ∧
      (document.fieldMask &&& dpRewriteSrcPort ≠ 0 ↔ document.srcPort ≠ none) ∧
      (document.fieldMask &&& dpRewriteDstPort ≠ 0 ↔ document.dstPort ≠ none) ∧
      document.fieldMask &&& 0xf0 = 0 ∧ (document.fieldMask ≠ 0 ↔ ¬ document.Bare) := by
  obtain ⟨type, srcIpv4, dstIpv4, srcPort, dstPort⟩ := document
  cases srcIpv4 <;> cases dstIpv4 <;> cases srcPort <;> cases dstPort
  all_goals simp [fieldMask, presentBit, Bare, dpRewriteSrcIpv4, dpRewriteDstIpv4,
    dpRewriteSrcPort, dpRewriteDstPort]
  all_goals decide

/-- A plain action has no field, and a rewrite has a field and only IPv4 addresses. -/
def ActionDocument.WellFormed (lib : GoLibrary) (document : ActionDocument) : Prop :=
  ((document.type = "drop" ∨ document.type = "forward") ∧ document.Bare) ∨
    (document.type = "rewrite" ∧ ¬ document.Bare ∧
      (∀ text, document.srcIpv4 = some text → lib.ipv4 text ≠ none) ∧
      ∀ text, document.dstIpv4 = some text → lib.ipv4 text ≠ none)

/-- The action has the type and the fields of its document. -/
structure ActionDocument.Denotes (lib : GoLibrary) (document : ActionDocument)
    (action : RuleAction) : Prop where
  type : (document.type = "drop" ∧ action.type = dpActionDrop) ∨
    (document.type = "forward" ∧ action.type = dpActionForward) ∨
    (document.type = "rewrite" ∧ action.type = dpActionRewrite)
  srcIpv4 : lib.address document.srcIpv4 = some action.srcIpv4
  dstIpv4 : lib.address document.dstIpv4 = some action.dstIpv4
  srcPort : action.srcPort = document.srcPort.getD 0
  dstPort : action.dstPort = document.dstPort.getD 0
  srcIpv4Bit : action.rewriteMask &&& dpRewriteSrcIpv4 ≠ 0 ↔ document.srcIpv4 ≠ none
  dstIpv4Bit : action.rewriteMask &&& dpRewriteDstIpv4 ≠ 0 ↔ document.dstIpv4 ≠ none
  srcPortBit : action.rewriteMask &&& dpRewriteSrcPort ≠ 0 ↔ document.srcPort ≠ none
  dstPortBit : action.rewriteMask &&& dpRewriteDstPort ≠ 0 ↔ document.dstPort ≠ none
  noOtherBit : action.rewriteMask &&& 0xf0 = 0

theorem GoLibrary.address_ne_none {field : Option String} :
    (∃ number, lib.address field = some number) ↔
      ∀ text, field = some text → lib.ipv4 text ≠ none := by
  cases field with
  | none => exact iff_of_true ⟨0, rfl⟩ fun _ impossible => by cases impossible
  | some text => simp [GoLibrary.address, Option.ne_none_iff_exists']

/-- A plain action reads no field. -/
theorem parsePlain_ok {document : ActionDocument} {action : RuleAction} {type : UInt8}
    (typed : parseType lib document.type = .ok type) (plain : type ≠ dpActionRewrite) :
    parseAction lib document = .ok action ↔
      document.Bare ∧ action = { RuleAction.zero with type := type } := by
  rw [parseAction, typed, bind_ok]
  simp only [Except.ok.injEq, exists_eq_left']
  rw [if_pos plain, guard_ok, rejectIf_ok]
  refine and_congr ?_
    ⟨fun same => (Except.ok.inj same).symm, fun same => congrArg Except.ok same.symm⟩
  simp only [ActionDocument.Bare, not_or, not_not, ne_eq]

theorem parseType_ok {text : String} {type : UInt8} :
    parseType lib text = .ok type ↔ (text = "drop" ∧ type = dpActionDrop) ∨
      (text = "forward" ∧ type = dpActionForward) ∨
      (text = "rewrite" ∧ type = dpActionRewrite) := by
  unfold parseType
  by_cases drop : text = "drop"
  · simp [drop, pure, Except.pure, eq_comm]
  · by_cases forward : text = "forward"
    · simp [forward, pure, Except.pure, eq_comm]
    · by_cases rewrite : text = "rewrite"
      · simp [rewrite, pure, Except.pure, eq_comm]
      · simp [drop, forward, rewrite, throw, throwThe, MonadExceptOf.throw]

/-- A parsed action is plain or a rewrite. -/
theorem parseAction_cases {document : ActionDocument} {action : RuleAction} :
    parseAction lib document = .ok action ↔
      ((document.type = "drop" ∧ document.Bare ∧
          action = { RuleAction.zero with type := dpActionDrop }) ∨
        (document.type = "forward" ∧ document.Bare ∧
          action = { RuleAction.zero with type := dpActionForward })) ∨
      (document.type = "rewrite" ∧ ¬ document.Bare ∧
        ∃ src dst, lib.address document.srcIpv4 = some src ∧
          lib.address document.dstIpv4 = some dst ∧
          action = ⟨dpActionRewrite, document.fieldMask, src, dst, document.srcPort.getD 0,
            document.dstPort.getD 0⟩) := by
  have bits := document.fieldMask_bits.2.2.2.2.2
  constructor
  · intro parsed
    have typed : ∃ type, parseType lib document.type = .ok type := by
      rw [parseAction, bind_ok] at parsed
      obtain ⟨type, typed, -⟩ := parsed
      exact ⟨type, typed⟩
    obtain ⟨type, typed⟩ := typed
    rcases parseType_ok.mp typed with ⟨drop, rfl⟩ | ⟨forward, rfl⟩ | ⟨rewrite, rfl⟩
    · exact Or.inl (Or.inl ⟨drop, (parsePlain_ok typed (by decide)).mp parsed⟩)
    · exact Or.inl (Or.inr ⟨forward, (parsePlain_ok typed (by decide)).mp parsed⟩)
    · rw [parseRewrite_ok rewrite, bits] at parsed
      exact Or.inr ⟨rewrite, parsed⟩
  · rintro ((⟨drop, plain⟩ | ⟨forward, plain⟩) | ⟨rewrite, fields⟩)
    · exact (parsePlain_ok (parseType_ok.mpr (Or.inl ⟨drop, rfl⟩)) (by decide)).mpr plain
    · exact (parsePlain_ok (parseType_ok.mpr (Or.inr (Or.inl ⟨forward, rfl⟩))) (by decide)).mpr
        plain
    · rw [parseRewrite_ok rewrite, bits]
      exact fields

/-- The parser accepts exactly the well-formed actions. -/
theorem parseAction_exists (document : ActionDocument) :
    (∃ action, parseAction lib document = .ok action) ↔ document.WellFormed lib := by
  simp only [parseAction_cases]
  constructor
  · rintro ⟨action, (⟨drop, bare, -⟩ | ⟨forward, bare, -⟩) |
      ⟨rewrite, some, src, dst, srcFound, dstFound, -⟩⟩
    · exact Or.inl ⟨Or.inl drop, bare⟩
    · exact Or.inl ⟨Or.inr forward, bare⟩
    · exact Or.inr ⟨rewrite, some, GoLibrary.address_ne_none.mp ⟨src, srcFound⟩,
        GoLibrary.address_ne_none.mp ⟨dst, dstFound⟩⟩
  · rintro (⟨drop | forward, bare⟩ | ⟨rewrite, some, srcParses, dstParses⟩)
    · exact ⟨_, Or.inl (Or.inl ⟨drop, bare, rfl⟩)⟩
    · exact ⟨_, Or.inl (Or.inr ⟨forward, bare, rfl⟩)⟩
    · obtain ⟨src, srcFound⟩ := GoLibrary.address_ne_none.mpr srcParses
      obtain ⟨dst, dstFound⟩ := GoLibrary.address_ne_none.mpr dstParses
      exact ⟨_, Or.inr ⟨rewrite, some, src, dst, srcFound, dstFound, rfl⟩⟩

theorem ActionDocument.Bare.denotes {document : ActionDocument} {type : UInt8}
    (bare : document.Bare)
    (typed : (document.type = "drop" ∧ type = dpActionDrop) ∨
      (document.type = "forward" ∧ type = dpActionForward) ∨
      (document.type = "rewrite" ∧ type = dpActionRewrite)) :
    document.Denotes lib { RuleAction.zero with type := type } := by
  obtain ⟨srcIpv4, dstIpv4, srcPort, dstPort⟩ := bare
  have unset (bit : UInt8) {A : Type} {field : Option A} (missing : field = none) :
      (0 : UInt8) &&& bit ≠ 0 ↔ field ≠ none :=
    iff_of_false (not_not.mpr (UInt8.zero_and)) (not_not.mpr missing)
  exact ⟨typed, by rw [srcIpv4]; rfl, by rw [dstIpv4]; rfl, by rw [srcPort]; rfl,
    by rw [dstPort]; rfl, unset _ srcIpv4, unset _ dstIpv4, unset _ srcPort, unset _ dstPort,
    UInt8.zero_and⟩

/-- A parsed action has the fields of its document and passes the validator. -/
theorem parseAction_denotes {document : ActionDocument} {action : RuleAction}
    (parsed : parseAction lib document = .ok action) :
    document.Denotes lib action ∧ action.Valid := by
  rcases parseAction_cases.mp parsed with (⟨drop, bare, rfl⟩ | ⟨forward, bare, rfl⟩) |
    ⟨rewrite, present, src, dst, srcFound, dstFound, rfl⟩
  · exact ⟨bare.denotes (Or.inl ⟨drop, rfl⟩), Or.inl ⟨Or.inl rfl, rfl⟩⟩
  · exact ⟨bare.denotes (Or.inr (Or.inl ⟨forward, rfl⟩)), Or.inl ⟨Or.inr rfl, rfl⟩⟩
  · obtain ⟨srcIpv4, dstIpv4, srcPort, dstPort, others, some⟩ := document.fieldMask_bits
    exact ⟨⟨Or.inr (Or.inr ⟨rewrite, rfl⟩), srcFound, dstFound, rfl, rfl, srcIpv4, dstIpv4, srcPort,
      dstPort, others⟩, Or.inr ⟨rfl, some.mpr present, others⟩⟩

/-- A flow denotes the rule with its addresses, its ports and its protocol number. -/
structure FlowDocument.Denotes (lib : GoLibrary) (item : FlowDocument) (rule : FlowRule) :
    Prop where
  srcIpv4 : lib.ipv4 item.srcIpv4 = some rule.srcIpv4
  dstIpv4 : lib.ipv4 item.dstIpv4 = some rule.dstIpv4
  srcPort : rule.srcPort = item.srcPort
  dstPort : rule.dstPort = item.dstPort
  protocol : (item.protocol = "tcp" ∧ rule.l4Proto = 6) ∨
    (item.protocol = "udp" ∧ rule.l4Proto = 17)
  action : item.action.Denotes lib rule.action

/-- This is the masked number and the depth of an IPv4 CIDR text of depth one or more. -/
def GoLibrary.cidr (lib : GoLibrary) (text : String) : Option (UInt32 × UInt8) :=
  match lib.parseCIDR text with
  | none => none
  | some (address, network) =>
      let size := IPMask.size network.mask
      if address.to4 = [] ∨ size.2 ≠ 32 ∨ size.1 = 0 then none
      else
        let depth := UInt8.ofNat size.1
        some (bigEndianUint32 address.to4 &&& prefixMask depth, depth)

/-- A route denotes the rule with its masked prefix and its depth. -/
structure RouteDocument.Denotes (lib : GoLibrary) (item : RouteDocument) (rule : RouteRule) :
    Prop where
  cidr : lib.cidr item.prefixText = some (rule.prefixBits, rule.depth)
  action : item.action.Denotes lib rule.action

/-- The two protocol names stand for these numbers. -/
def protocolNumber (text : String) : Option UInt8 :=
  if text = "tcp" then some 6 else if text = "udp" then some 17 else none

theorem parseProtocol_ok {text : String} {protocol : UInt8} :
    parseProtocol lib text = .ok protocol ↔ protocolNumber text = some protocol := by
  unfold parseProtocol protocolNumber
  by_cases tcp : text = "tcp"
  · simp [tcp, pure, Except.pure]
  · by_cases udp : text = "udp"
    · simp [udp, pure, Except.pure]
    · simp [tcp, udp, throw, throwThe, MonadExceptOf.throw]

theorem protocolNumber_eq_some {text : String} {protocol : UInt8}
    (known : protocolNumber text = some protocol) :
    (text = "tcp" ∧ protocol = 6) ∨ (text = "udp" ∧ protocol = 17) := by
  unfold protocolNumber at known
  by_cases tcp : text = "tcp"
  · rw [if_pos tcp] at known
    exact Or.inl ⟨tcp, (Option.some.inj known).symm⟩
  · rw [if_neg tcp] at known
    by_cases udp : text = "udp"
    · rw [if_pos udp] at known
      exact Or.inr ⟨udp, (Option.some.inj known).symm⟩
    · rw [if_neg udp] at known
      cases known

/-- The flow loop reads this rule from an item. -/
def FlowDocument.Reads (lib : GoLibrary) (item : FlowDocument) (rule : FlowRule) : Prop :=
  lib.ipv4 item.srcIpv4 = some rule.srcIpv4 ∧ lib.ipv4 item.dstIpv4 = some rule.dstIpv4 ∧
    protocolNumber item.protocol = some rule.l4Proto ∧
    parseAction lib item.action = .ok rule.action ∧ rule.srcPort = item.srcPort ∧
    rule.dstPort = item.dstPort

def RouteDocument.Reads (lib : GoLibrary) (item : RouteDocument) (rule : RouteRule) : Prop :=
  lib.cidr item.prefixText = some (rule.prefixBits, rule.depth) ∧
    parseAction lib item.action = .ok rule.action

theorem normalizeFlow_ok (index : Nat) (item : FlowDocument) (entry : List UInt64 × FlowRule) :
    normalizeFlow lib index item = .ok entry ↔
      item.Reads lib entry.2 ∧ entry.1 = flowMapKey entry.2 := by
  simp only [normalizeFlow, bind_ok, withContext_ok, ipv4Number_ok, parseProtocol_ok, pure,
    Except.pure, Except.ok.injEq]
  constructor
  · rintro ⟨src, srcFound, dst, dstFound, protocol, known, action, parsed, rfl⟩
    exact ⟨⟨srcFound, dstFound, known, parsed, rfl, rfl⟩, rfl⟩
  · obtain ⟨key, src, dst, srcPort, dstPort, protocol, action⟩ := entry
    rintro ⟨⟨srcFound, dstFound, known, parsed, samePort, samePort'⟩, sameKey⟩
    dsimp only at samePort samePort' sameKey
    refine ⟨src, srcFound, dst, dstFound, protocol, known, action, parsed, ?_⟩
    rw [sameKey, samePort, samePort']
    rfl

/-- An IPv4 CIDR text has a network of at most thirty-two leading ones. -/
theorem GoLibrary.cidr_eq_some {text : String} {found : UInt32 × UInt8} :
    lib.cidr text = some found ↔ ∃ address network depth,
      lib.parseCIDR text = some (address, network) ∧ address.to4 ≠ [] ∧
        IPMask.size network.mask = (depth, 32) ∧ depth ≠ 0 ∧
        found = (bigEndianUint32 address.to4 &&& prefixMask (UInt8.ofNat depth),
          UInt8.ofNat depth) := by
  unfold GoLibrary.cidr
  cases lib.parseCIDR text with
  | none => simp
  | some parsed =>
    obtain ⟨address, network⟩ := parsed
    dsimp only
    cases size : IPMask.size network.mask with
    | mk depth bits =>
      dsimp only
      constructor
      · intro accepted
        by_cases bad : address.to4 = [] ∨ bits ≠ 32 ∨ depth = 0
        · rw [if_pos bad] at accepted
          cases accepted
        · rw [if_neg bad] at accepted
          simp only [not_or, not_not] at bad
          obtain ⟨four, rfl, positive⟩ := bad
          exact ⟨address, network, depth, rfl, four, size, positive,
            (Option.some.inj accepted).symm⟩
      · rintro ⟨address', network', depth', same, four, size', positive, rfl⟩
        obtain ⟨rfl, rfl⟩ := Prod.mk.inj (Option.some.inj same)
        obtain ⟨rfl, rfl⟩ := Prod.mk.inj (size.symm.trans size')
        rw [if_neg (by simp [four, positive])]

/-- The depth of an IPv4 CIDR text lies between one and thirty-two, and its prefix is masked. -/
theorem GoLibrary.cidr_normal {text : String} {found : UInt32 × UInt8}
    (cidr : lib.cidr text = some found) : NormalPrefix found.1 found.2 := by
  obtain ⟨address, network, depth, -, -, size, positive, rfl⟩ := GoLibrary.cidr_eq_some.mp cidr
  have small := (IPMask.size_eq size).2
  have value : (UInt8.ofNat depth).toNat = depth := by
    rw [UInt8.toNat_ofNat']
    omega
  refine ⟨fun zero => positive ?_, ?_, ?_⟩
  · exact value.symm.trans (congrArg UInt8.toNat zero)
  · rw [UInt8.le_iff_toNat_le, value]
    exact small
  · rw [UInt32.and_assoc, UInt32.and_self]

/-- A depth survives both of its conversions. -/
theorem depth_toUInt64 {mask : IPMask} {depth : Nat} (size : IPMask.size mask = (depth, 32)) :
    (UInt8.ofNat depth).toUInt64 = UInt64.ofNat depth := by
  have small := (IPMask.size_eq size).2
  apply UInt64.toNat_inj.mp
  rw [UInt8.toNat_toUInt64, UInt8.toNat_ofNat', UInt64.toNat_ofNat']
  omega

/-- The body of the route loop computes the masked prefix. -/
theorem normalizeRoute_ok (masks : lib.Masks) (index : Nat) (item : RouteDocument)
    (entry : List UInt64 × RouteRule) :
    normalizeRoute lib index item = .ok entry ↔
      item.Reads lib entry.2 ∧ entry.1 = routeMapKey entry.2 := by
  obtain ⟨key, rule⟩ := entry
  rw [RouteDocument.Reads, GoLibrary.cidr_eq_some, normalizeRoute]
  cases parsed : lib.parseCIDR item.prefixText with
  | none => simp [throw, throwThe, MonadExceptOf.throw]
  | some parsed' =>
    obtain ⟨address, network⟩ := parsed'
    cases size : IPMask.size network.mask with
    | mk ones bits =>
      dsimp only
      rw [guard_ok, guard_ok, rejectIf_ok, rejectIf_ok, bind_ok]
      simp only [size, withContext_ok, not_or, not_not, pure, Except.pure, Except.ok.injEq]
      constructor
      · rintro ⟨four, ⟨rfl, positive⟩, action', known, same⟩
        obtain ⟨rfl, rfl⟩ := Prod.mk.inj same
        refine ⟨⟨⟨address, network, ones, rfl, four, size, positive, ?_⟩, known⟩, ?_⟩
        · rw [masks.network parsed four size positive]
        · rw [routeMapKey, depth_toUInt64 size]
      · rintro ⟨⟨⟨address', network', ones', same, four, size', positive, found⟩, known⟩, rfl⟩
        obtain ⟨rfl, rfl⟩ := Prod.mk.inj (Option.some.inj same)
        obtain ⟨rfl, rfl⟩ := Prod.mk.inj (size.symm.trans size')
        obtain ⟨bits, depth⟩ := Prod.mk.inj found
        refine ⟨four, ⟨rfl, positive⟩, rule.action, known, ?_⟩
        rw [masks.network parsed four size positive, routeMapKey, bits, depth,
          depth_toUInt64 size, ← bits, ← depth]

/-- A document is well formed when it keeps the published limits, each of its rules is well formed
on its own, no two flows have the same numeric key and no two routes the same masked prefix. -/
structure RulesDocument.WellFormed (lib : GoLibrary) (document : RulesDocument) : Prop where
  flowLimit : document.flows.length ≤ 1024
  routeLimit : document.routes.length ≤ 1024
  flowAddress : ∀ item ∈ document.flows,
    lib.ipv4 item.srcIpv4 ≠ none ∧ lib.ipv4 item.dstIpv4 ≠ none
  flowProtocol : ∀ item ∈ document.flows, item.protocol = "tcp" ∨ item.protocol = "udp"
  flowAction : ∀ item ∈ document.flows, item.action.WellFormed lib
  routePrefix : ∀ item ∈ document.routes, lib.cidr item.prefixText ≠ none
  routeAction : ∀ item ∈ document.routes, item.action.WellFormed lib
  flowDistinct : (document.flows.map fun item => (lib.ipv4 item.srcIpv4, lib.ipv4 item.dstIpv4,
    item.srcPort, item.dstPort, protocolNumber item.protocol)).Nodup
  routeDistinct : (document.routes.map fun item => lib.cidr item.prefixText).Nodup

/-- The normaliser succeeds exactly when its two loops read all items with distinct keys. -/
theorem normalizeRules_ok (masks : lib.Masks) (document : RulesDocument)
    (snapshot : RuleSnapshot) :
    normalizeRules lib document = .ok snapshot ↔
      document.flows.length ≤ 1024 ∧ document.routes.length ≤ 1024 ∧
      (List.Forall₂ (FlowDocument.Reads lib) document.flows snapshot.flows ∧
        (snapshot.flows.map flowMapKey).Nodup) ∧
      List.Forall₂ (RouteDocument.Reads lib) document.routes snapshot.routes ∧
        (snapshot.routes.map routeMapKey).Nodup := by
  rw [normalizeRules, guard_ok, guard_ok, rejectIf_ok, rejectIf_ok, bind_ok]
  simp only [bind_ok, collectKeyed_all normalizeFlow_ok,
    collectKeyed_all (normalizeRoute_ok masks), not_lt, pure, Except.pure, Except.ok.injEq]
  constructor
  · rintro ⟨flowLimit, routeLimit, flows, flowsRead, routes, routesRead, rfl⟩
    exact ⟨flowLimit, routeLimit, flowsRead, routesRead⟩
  · rintro ⟨flowLimit, routeLimit, flowsRead, routesRead⟩
    exact ⟨flowLimit, routeLimit, _, flowsRead, _, routesRead, rfl⟩

theorem FlowDocument.Reads.denotes {item : FlowDocument} {rule : FlowRule}
    (reads : item.Reads lib rule) : item.Denotes lib rule := by
  obtain ⟨src, dst, protocol, action, srcPort, dstPort⟩ := reads
  exact ⟨src, dst, srcPort, dstPort, protocolNumber_eq_some protocol,
    (parseAction_denotes action).1⟩

theorem RouteDocument.Reads.denotes {item : RouteDocument} {rule : RouteRule}
    (reads : item.Reads lib rule) : item.Denotes lib rule :=
  ⟨reads.1, (parseAction_denotes reads.2).1⟩

/-- The rules that the loops read are well formed. -/
theorem normalizeRules_wellFormed (masks : lib.Masks) {document : RulesDocument}
    {snapshot : RuleSnapshot} (accepted : normalizeRules lib document = .ok snapshot) :
    snapshot.WellFormed := by
  obtain ⟨flowLimit, routeLimit, ⟨flows, flowKeys⟩, routes, routeKeys⟩ :=
    (normalizeRules_ok masks document snapshot).mp accepted
  refine
    { flowLimit := flows.length_eq ▸ flowLimit
      routeLimit := routes.length_eq ▸ routeLimit
      flowProto := fun rule member => ?_
      flowAction := fun rule member => ?_
      routePrefix := fun rule member => ?_
      routeAction := fun rule member => ?_
      flowDistinct := (nodup_map_congr flowMapKey_eq _).mp flowKeys
      routeDistinct := (nodup_map_congr routeMapKey_eq _).mp routeKeys }
  · obtain ⟨item, -, -, protocol, -⟩ := forall₂_right flows rule member
    exact (protocolNumber_eq_some protocol).imp And.right And.right
  · obtain ⟨item, -, -, -, action, -⟩ := forall₂_right flows rule member
    exact (parseAction_denotes action).2
  · obtain ⟨item, cidr, -⟩ := forall₂_right routes rule member
    exact GoLibrary.cidr_normal cidr
  · obtain ⟨item, -, action⟩ := forall₂_right routes rule member
    exact (parseAction_denotes action).2

/-- The map keys tell the rules apart exactly as the texts of their documents do. -/
theorem flowKeys_nodup {items : List FlowDocument} {rules : List FlowRule}
    (reads : List.Forall₂ (FlowDocument.Reads lib) items rules) :
    (items.map fun item => (lib.ipv4 item.srcIpv4, lib.ipv4 item.dstIpv4, item.srcPort,
      item.dstPort, protocolNumber item.protocol)).Nodup ↔ (rules.map flowMapKey).Nodup := by
  have same : items.map (fun item => (lib.ipv4 item.srcIpv4, lib.ipv4 item.dstIpv4, item.srcPort,
      item.dstPort, protocolNumber item.protocol)) =
      rules.map fun rule => (some rule.srcIpv4, some rule.dstIpv4, rule.srcPort, rule.dstPort,
        some rule.l4Proto) :=
    map_eq_of_forall₂ reads fun item rule ⟨src, dst, protocol, _, srcPort, dstPort⟩ => by
      rw [src, dst, protocol, srcPort, dstPort]
  rw [same]
  refine nodup_map_congr (fun first second => ?_) rules
  rw [flowMapKey_eq]
  simp [flowRuleKey]

theorem routeKeys_nodup {items : List RouteDocument} {rules : List RouteRule}
    (reads : List.Forall₂ (RouteDocument.Reads lib) items rules) :
    (items.map fun item => lib.cidr item.prefixText).Nodup ↔ (rules.map routeMapKey).Nodup := by
  have same : items.map (fun item => lib.cidr item.prefixText) =
      rules.map fun rule => some (rule.prefixBits, rule.depth) :=
    map_eq_of_forall₂ reads fun _ _ read => read.1
  rw [same]
  refine nodup_map_congr (fun first second => ?_) rules
  rw [routeMapKey_eq]
  simp [routeRuleKey]

/-- The normaliser accepts exactly the well-formed documents. -/
theorem normalizeRules_exists (masks : lib.Masks) (document : RulesDocument) :
    (∃ snapshot, normalizeRules lib document = .ok snapshot) ↔ document.WellFormed lib := by
  simp only [normalizeRules_ok masks]
  constructor
  · rintro ⟨snapshot, flowLimit, routeLimit, ⟨flows, flowKeys⟩, routes, routeKeys⟩
    refine ⟨flowLimit, routeLimit, fun item member => ?_, fun item member => ?_,
      fun item member => ?_, fun item member => ?_, fun item member => ?_,
      (flowKeys_nodup flows).mpr flowKeys, (routeKeys_nodup routes).mpr routeKeys⟩
    · obtain ⟨rule, src, dst, -⟩ := forall₂_left flows item member
      rw [src, dst]
      exact ⟨Option.some_ne_none _, Option.some_ne_none _⟩
    · obtain ⟨rule, -, -, protocol, -⟩ := forall₂_left flows item member
      exact (protocolNumber_eq_some protocol).imp And.left And.left
    · obtain ⟨rule, -, -, -, action, -⟩ := forall₂_left flows item member
      exact (parseAction_exists item.action).mp ⟨_, action⟩
    · obtain ⟨rule, cidr, -⟩ := forall₂_left routes item member
      rw [cidr]
      exact Option.some_ne_none _
    · obtain ⟨rule, -, action⟩ := forall₂_left routes item member
      exact (parseAction_exists item.action).mp ⟨_, action⟩
  · intro wellFormed
    obtain ⟨flows, flowsRead⟩ : ∃ flows, List.Forall₂ (FlowDocument.Reads lib) document.flows
        flows := by
      refine exists_forall₂ fun item member => ?_
      obtain ⟨src, srcFound⟩ := Option.ne_none_iff_exists'.mp (wellFormed.flowAddress item member).1
      obtain ⟨dst, dstFound⟩ := Option.ne_none_iff_exists'.mp (wellFormed.flowAddress item member).2
      obtain ⟨action, parsed⟩ := (parseAction_exists item.action).mpr
        (wellFormed.flowAction item member)
      obtain ⟨protocol, known⟩ : ∃ protocol, protocolNumber item.protocol = some protocol := by
        rcases wellFormed.flowProtocol item member with tcp | udp
        · exact ⟨6, by rw [tcp]; rfl⟩
        · exact ⟨17, by rw [udp]; rfl⟩
      exact ⟨⟨src, dst, item.srcPort, item.dstPort, protocol, action⟩, srcFound, dstFound, known,
        parsed, rfl, rfl⟩
    obtain ⟨routes, routesRead⟩ : ∃ routes, List.Forall₂ (RouteDocument.Reads lib)
        document.routes routes := by
      refine exists_forall₂ fun item member => ?_
      obtain ⟨found, cidr⟩ := Option.ne_none_iff_exists'.mp (wellFormed.routePrefix item member)
      obtain ⟨action, parsed⟩ := (parseAction_exists item.action).mpr
        (wellFormed.routeAction item member)
      exact ⟨⟨found.1, found.2, action⟩, cidr, parsed⟩
    exact ⟨⟨flows, routes⟩, wellFormed.flowLimit, wellFormed.routeLimit,
      ⟨flowsRead, (flowKeys_nodup flowsRead).mp wellFormed.flowDistinct⟩,
      routesRead, (routeKeys_nodup routesRead).mp wellFormed.routeDistinct⟩

/-- The normaliser accepts exactly the well-formed documents. Its snapshot lists the denoted rules
in their order, and the validator accepts that snapshot. -/
theorem normalizeRules_exact (masks : lib.Masks) (document : RulesDocument) :
    ((∃ snapshot, normalizeRules lib document = .ok snapshot) ↔ document.WellFormed lib) ∧
    ∀ snapshot, normalizeRules lib document = .ok snapshot →
      List.Forall₂ (FlowDocument.Denotes lib) document.flows snapshot.flows ∧
      List.Forall₂ (RouteDocument.Denotes lib) document.routes snapshot.routes ∧
      validateRules snapshot = .ok () := by
  refine ⟨normalizeRules_exists masks document, fun snapshot accepted => ?_⟩
  obtain ⟨-, -, ⟨flows, -⟩, routes, -⟩ := (normalizeRules_ok masks document snapshot).mp accepted
  exact ⟨flows.imp fun _ _ => FlowDocument.Reads.denotes,
    routes.imp fun _ _ => RouteDocument.Reads.denotes,
    (validateRules_ok snapshot).mpr (normalizeRules_wellFormed masks accepted)⟩

/-- This library knows two addresses and two networks. -/
def sampleLibrary : GoLibrary where
  parseIP text :=
    if text = "192.0.2.1" then v4InV6Prefix ++ [192, 0, 2, 1]
    else if text = "198.51.100.2" then v4InV6Prefix ++ [198, 51, 100, 2]
    else []
  parseCIDR text :=
    if text = "10.1.2.1/24" then
      some (v4InV6Prefix ++ [10, 1, 2, 1], ⟨[10, 1, 2, 0], [255, 255, 255, 0]⟩)
    else if text = "10.1.0.0/16" then
      some (v4InV6Prefix ++ [10, 1, 0, 0], ⟨[10, 1, 0, 0], [255, 255, 0, 0]⟩)
    else none
  quote text := text

theorem sampleLibrary_masks : sampleLibrary.Masks := by
  intro text address network parsed
  dsimp only [sampleLibrary] at parsed
  by_cases first : text = "10.1.2.1/24"
  · rw [if_pos first] at parsed
    obtain ⟨rfl, rfl⟩ := Prod.mk.inj (Option.some.inj parsed)
    decide
  rw [if_neg first] at parsed
  by_cases second : text = "10.1.0.0/16"
  · rw [if_pos second] at parsed
    obtain ⟨rfl, rfl⟩ := Prod.mk.inj (Option.some.inj parsed)
    decide
  · rw [if_neg second] at parsed
    cases parsed

def sampleDocument : RulesDocument where
  flows := [⟨"192.0.2.1", "198.51.100.2", 1, 2, "udp",
      ⟨"rewrite", none, some "192.0.2.1", none, some 9⟩⟩,
    ⟨"192.0.2.1", "198.51.100.2", 1, 2, "tcp", ⟨"drop", none, none, none, none⟩⟩]
  routes := [⟨"10.1.2.1/24", ⟨"forward", none, none, none, none⟩⟩,
    ⟨"10.1.0.0/16", ⟨"drop", none, none, none, none⟩⟩]

def sampleSnapshot : RuleSnapshot where
  flows := [⟨0xc0000201, 0xc6336402, 1, 2, 17, ⟨2, 10, 0, 0xc0000201, 0, 9⟩⟩,
    ⟨0xc0000201, 0xc6336402, 1, 2, 6, ⟨0, 0, 0, 0, 0, 0⟩⟩]
  routes := [⟨0x0a010200, 24, ⟨1, 0, 0, 0, 0, 0⟩⟩, ⟨0x0a010000, 16, ⟨0, 0, 0, 0, 0, 0⟩⟩]

/-- The host bits of the first route are masked, and the first rewrite mask has two bits. The two
flows differ in their protocol only. -/
theorem normalizeRules_exact_sample :
    normalizeRules sampleLibrary sampleDocument = .ok sampleSnapshot ∧
      sampleDocument.WellFormed sampleLibrary ∧ validateRules sampleSnapshot = .ok () := by
  have accepted : normalizeRules sampleLibrary sampleDocument = .ok sampleSnapshot := by
    decide +kernel
  obtain ⟨exact, denoted⟩ := normalizeRules_exact sampleLibrary_masks sampleDocument
  exact ⟨accepted, exact.mp ⟨_, accepted⟩, (denoted _ accepted).2.2⟩

end FlowRouter.Control
