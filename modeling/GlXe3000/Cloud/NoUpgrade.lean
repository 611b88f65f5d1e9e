import GlXe3000.Cloud.Daemon

/-! # Firmware upgrades from the cloud

No feature has a command for an upgrade, but `base/rpc` and `base/cmd` forward any RPC call, and the
endpoint asks no more of a call from loopback. So a message reaches the object `upgrade`, and the AT
commands of the modem, through the forwarder. Without it, the features make only calls of their own. -/

namespace GlXe3000.Cloud
open Text Script Proc

/-- The RPC calls that the features make. -/
def featureCalls : List (Text × Text) :=
  [("system", "get_status"), ("local-access", "get_config"), ("clients", "get_list"),
    ("cable", "get_ports_status"), ("cable", "get_ports_config"), ("cable", "get_status"),
    ("cable", "get_config"), ("kmwan", "get_config"), ("kmwan", "set_config"), ("modem", "info"),
    ("modem", "status"), ("modem", "get_cell_info"), ("modem", "get_signals"),
    ("system", "reboot"), ("system", "reset_firmware"), ("rtty", "run")]

/-- A request that no feature makes. -/
def Action.IsForeign : Action → Prop
  | .rpc object method _ => ¬∃ c ∈ featureCalls, object = c.1 ∧ method = some (.str c.2)
  | _ => False

/-- A message asks the forwarder for a call that no feature makes. -/
def NamesForeign (topic : Text) (payload : Json) : Prop :=
  (fields '/' topic)[4]? = some "command".toList ∧ (fields '/' topic)[5]? = some "base".toList ∧
    ∃ method, (fields '/' topic)[6]? = some method ∧
      (method = "rpc".toList ∨ method = "cmd".toList) ∧
      ∃ values, argument payload "base".toList method payload = .ok values ∧
        ∃ object, values.item 1 = some (.str object) ∧
          ∀ params, (Action.rpc object (values.item 2) params).IsForeign

/-- The broker does not ask the forwarder for a call that no feature makes. -/
def NothingForwarded (lua : Runtime) : Event → Prop
  | .tick _ => True
  | .publish topic data _ _ => ∀ raw payload, parseMessage data = some raw →
      lua.decode raw = some payload → ¬NamesForeign topic payload

/-- A script that makes only requests of the features. -/
abbrev Harmless {α : Type} (m : Script α) : Prop := Shuns Action.IsForeign m

section
variable {lua : Runtime} {value : Json}

theorem harmless_perform {a : Action} (h : ¬a.IsForeign) : Harmless (perform a) :=
  Shuns.perform h

theorem harmless_step {f : a.Answer → Script α} (h : ¬a.IsForeign) (hf : ∀ r, Harmless (f r)) :
    Harmless (perform a >>= f) :=
  .bind (harmless_perform h) hf

theorem harmless_evaluate {α : Type} (x : Except Unit α) : Harmless (evaluate x) := by
  cases x with
  | ok x => exact .pure x
  | error e => exact .throw _

theorem harmless_localRpc {object : Text} {method : Option Json}
    (h : ∃ c ∈ featureCalls, object = c.1 ∧ method = some (.str c.2)) (params : Option Json) :
    Harmless (localRpc object method params) := by
  refine .bind (harmless_perform (not_not_intro h)) fun r => ?_
  exact .ite (fun _ => .pure _) fun _ => .throw _

theorem harmless_call {object method : String} (h : (object.toList, method.toList) ∈ featureCalls)
    (params : Option Json) : Harmless (call object method params) :=
  harmless_localRpc ⟨_, h, rfl, rfl⟩ _

theorem harmless_callAll {calls : List (String × String)}
    (h : ∀ c ∈ calls, (c.1.toList, c.2.toList) ∈ featureCalls) : Harmless (callAll calls) := by
  induction calls with
  | nil => exact .pure _
  | cons c calls ih =>
    refine .bind (harmless_call (h c List.mem_cons_self) _) fun answer => ?_
    refine .bind (ih fun c' hc => h c' (List.mem_cons_of_mem c hc)) fun answers => ?_
    exact .pure _

theorem harmless_report {calls : List (String × String)}
    (h : ∀ c ∈ calls, (c.1.toList, c.2.toList) ∈ featureCalls) (feature : String) :
    Harmless (report feature calls) :=
  .bind (harmless_callAll h) fun _ => harmless_perform id

theorem harmless_modemGet : Harmless modemGet := by
  refine .bind (harmless_call (by decide) _) fun info => ?_
  refine .bind (harmless_call (by decide) _) fun status => ?_
  refine .bind (harmless_call (by decide) _) fun cellInfo => ?_
  refine .ite (fun _ => harmless_perform id) fun _ => ?_
  exact .bind (harmless_call (by decide) _) fun history => harmless_perform id

theorem harmless_uciSet (config sec option : Text) (value : Json) :
    Harmless (uciSet lua config sec option value) :=
  .bind (harmless_evaluate _) fun _ => harmless_perform id

theorem harmless_setFlag (name : String) (config sec option : Text) :
    Harmless (setFlag value name config sec option) := by
  unfold setFlag
  split
  · exact harmless_perform id
  · exact .pure _

theorem harmless_setText (name : String) (config sec option : Text) :
    Harmless (setText value name config sec option) := by
  unfold setText
  split
  · exact harmless_perform id
  · exact .pure _

theorem harmless_notifyStatus : Harmless notifyStatus :=
  harmless_step id fun _ => .pure _

theorem harmless_reconnect : Harmless reconnect :=
  harmless_step id fun _ => .pure _

theorem harmless_goodcloudSet : Harmless (goodcloudSet value) := by
  refine .ite (fun _ => ?_) fun _ => .pure _
  refine .bind (harmless_setFlag _ _ _ _) fun _ => ?_
  refine .bind (harmless_setFlag _ _ _ _) fun _ => ?_
  refine .bind (harmless_setFlag _ _ _ _) fun _ => ?_
  iterate 3 refine harmless_step id fun _ => ?_
  exact .bind harmless_notifyStatus fun _ => .pure _

theorem harmless_setHostname : Harmless (setHostname lua value) := by
  unfold setHostname
  split
  · exact .pure _
  · refine .bind (harmless_uciSet _ _ _ _) fun _ => ?_
    exact harmless_step id fun _ => harmless_perform id

theorem harmless_setTimezone : Harmless (setTimezone value) := by
  unfold setTimezone
  split
  · exact .pure _
  · exact .pure _
  · split
    · exact .pure _
    · refine harmless_step id fun _ => ?_
      refine harmless_step id fun _ => ?_
      exact harmless_step id fun _ => harmless_perform id
  · exact .throw _

theorem harmless_setPassword : Harmless (setPassword lua value) := by
  unfold setPassword
  split
  · exact .pure _
  · exact harmless_step id fun _ => harmless_perform id

theorem harmless_systemSet : Harmless (systemSet lua value) := by
  refine .ite (fun _ => ?_) fun _ => .pure _
  refine .bind harmless_setHostname fun _ => ?_
  refine .bind harmless_setTimezone fun _ => ?_
  refine .bind harmless_setPassword fun _ => ?_
  exact harmless_step id fun _ => .pure _

theorem harmless_setAccessPoint (key sec : Text) : Harmless (setAccessPoint value key sec) := by
  unfold setAccessPoint
  split
  · refine .bind (harmless_setText _ _ _ _) fun _ => ?_
    exact .bind (harmless_setText _ _ _ _) fun _ => harmless_setFlag _ _ _ _
  · exact .pure _

theorem harmless_setAccessPoints (aps : List (Text × Text)) :
    Harmless (setAccessPoints value aps) := by
  induction aps with
  | nil => exact .pure _
  | cons ap aps ih => exact .bind (harmless_setAccessPoint _ _) fun _ => ih

theorem harmless_wifiSet : Harmless (wifiSet value) := by
  refine .ite (fun _ => ?_) fun _ => .pure _
  refine harmless_step id fun aps => ?_
  refine .bind (harmless_setAccessPoints aps) fun _ => ?_
  refine harmless_step id fun _ => ?_
  exact harmless_step id fun _ => .pure _

theorem harmless_kmwanSet : Harmless (kmwanSet lua value) := by
  unfold kmwanSet
  split
  · refine .ite (fun _ => ?_) fun _ => .pure _
    exact .bind (harmless_call (by decide) _) fun _ => .pure _
  · exact .pure _

theorem harmless_attributes {a : Text × Attribute} (h : a ∈ attributes lua) :
    Harmless a.2.get ∧ ∀ set, a.2.set = some set → ∀ value, Harmless (set value) := by
  simp only [attributes, List.mem_cons, List.not_mem_nil, or_false] at h
  obtain rfl | rfl | rfl | rfl | rfl | rfl | rfl | rfl | rfl | rfl := h
  · exact ⟨harmless_report (by decide) _, nofun⟩
  · refine ⟨harmless_report (by decide) _, ?_⟩
    rintro _ ⟨⟩ value
    exact harmless_systemSet
  · refine ⟨harmless_report (by decide) _, ?_⟩
    rintro _ ⟨⟩ value
    exact harmless_goodcloudSet
  · refine ⟨harmless_report (by decide) _, ?_⟩
    rintro _ ⟨⟩ value
    exact harmless_wifiSet
  · exact ⟨harmless_report (by decide) _, nofun⟩
  · exact ⟨harmless_report (by decide) _, nofun⟩
  · exact ⟨harmless_report (by decide) _, nofun⟩
  · refine ⟨harmless_report (by decide) _, ?_⟩
    rintro _ ⟨⟩ value
    exact harmless_kmwanSet
  · exact ⟨harmless_report (by decide) _, nofun⟩
  · exact ⟨harmless_modemGet, nofun⟩

theorem harmless_onlyIf {c : Bool} {m : Script Unit} (h : Harmless m) : Harmless (onlyIf c m) :=
  .ite (fun _ => h) fun _ => .pure _

theorem harmless_goodcloudBind : Harmless (goodcloudBind lua value) := by
  refine .ite (fun _ => ?_) fun _ => .pure _
  refine harmless_step id fun unbind => ?_
  refine .bind (harmless_onlyIf (harmless_perform id)) fun _ => ?_
  refine .bind (harmless_uciSet _ _ _ _) fun _ => ?_
  refine .bind (harmless_uciSet _ _ _ _) fun _ => ?_
  refine .bind (harmless_uciSet _ _ _ _) fun _ => ?_
  refine .bind (harmless_uciSet _ _ _ _) fun _ => ?_
  refine harmless_step id fun _ => ?_
  refine harmless_step id fun _ => ?_
  refine .bind harmless_notifyStatus fun _ => ?_
  exact .bind (harmless_onlyIf harmless_reconnect) fun _ => .pure _

theorem harmless_goodcloudUnbind : Harmless goodcloudUnbind := by
  iterate 10 refine harmless_step id fun _ => ?_
  refine .bind harmless_notifyStatus fun _ => ?_
  exact .bind harmless_reconnect fun _ => .pure _

theorem harmless_awaitRtty (n : Nat) : Harmless (awaitRtty n) := by
  induction n with
  | zero => exact .pure _
  | succ n ih =>
    refine .bind (harmless_perform id) fun state => ?_
    refine .ite (fun _ => ?_) fun _ => .pure _
    exact harmless_step id fun _ => ih

theorem harmless_goodcloudRtty : Harmless (goodcloudRtty value) := by
  refine .ite (fun _ => ?_) fun _ => .pure _
  refine .bind (harmless_call (by decide) _) fun resp => ?_
  cases resp with
  | none =>
    refine .bind (harmless_awaitRtty 10) fun status => ?_
    exact harmless_step id fun _ => .pure _
  | some resp => exact .ite (fun _ => .pure _) fun _ => .pure _

theorem harmless_baseCall {object method : String}
    (h : (object.toList, method.toList) ∈ featureCalls) : Harmless (baseCall object method) :=
  .bind (harmless_call h _) fun _ => .pure _

theorem harmless_baseRpc (h : ∀ object, value.item 1 = some (.str object) →
    ∃ c ∈ featureCalls, object = c.1 ∧ value.item 2 = some (.str c.2)) :
    Harmless (baseRpc value) := by
  unfold baseRpc
  split
  · next object hobject =>
    refine .bind (harmless_localRpc (h object hobject) _) fun resp => ?_
    cases resp <;> exact .pure _
  · exact .pure _

theorem mem_of_lookup {β : Type} {l : List (Text × β)} {k : Text} {b : β}
    (h : l.lookup k = some b) : (k, b) ∈ l := by
  obtain ⟨l₁, l₂, rfl, -⟩ := List.lookup_eq_some_iff.1 h
  exact List.mem_append_right _ List.mem_cons_self

theorem harmless_commandEntry {feature method : Text} {entry : Json → Script (Option Json)}
    (h : commandEntry lua (some feature) (some method) = some entry)
    (hvalue : feature = "base" → method = "rpc" ∨ method = "cmd" →
      ∀ object, value.item 1 = some (.str object) →
        ∃ c ∈ featureCalls, object = c.1 ∧ value.item 2 = some (.str c.2)) :
    Harmless (entry value) := by
  obtain ⟨methods, hfeature, hmethod⟩ := Option.bind_eq_some_iff.1 h
  have hfeature := mem_of_lookup hfeature
  have hmethod := mem_of_lookup hmethod
  simp only [commands, List.mem_cons, List.not_mem_nil, or_false, Prod.mk.injEq] at hfeature
  obtain ⟨rfl, rfl⟩ | ⟨rfl, rfl⟩ | ⟨rfl, rfl⟩ | ⟨rfl, rfl⟩ | ⟨rfl, rfl⟩ := hfeature
  · simp only [List.mem_cons, List.not_mem_nil, or_false, Prod.mk.injEq] at hmethod
    obtain ⟨rfl, rfl⟩ | ⟨rfl, rfl⟩ | ⟨rfl, rfl⟩ | ⟨rfl, rfl⟩ := hmethod
    · exact harmless_baseCall (by decide)
    · exact harmless_baseCall (by decide)
    · exact harmless_baseRpc (hvalue rfl (.inl rfl))
    · exact harmless_baseRpc (hvalue rfl (.inr rfl))
  · simp only [List.mem_cons, List.not_mem_nil, or_false, Prod.mk.injEq] at hmethod
    obtain ⟨rfl, rfl⟩ | ⟨rfl, rfl⟩ | ⟨rfl, rfl⟩ | ⟨rfl, rfl⟩ | ⟨rfl, rfl⟩ := hmethod
    · exact harmless_report (by decide) _
    · exact harmless_goodcloudSet
    · exact harmless_goodcloudBind
    · exact harmless_goodcloudUnbind
    · exact harmless_goodcloudRtty
  · cases hmethod
  · cases hmethod
  · cases hmethod

/-! ## Messages -/

theorem harmless_replyBody : Harmless (replyBody value) := by
  refine .bind (harmless_evaluate _) fun id => ?_
  exact harmless_step (fun h => h) fun now => .pure _

theorem harmless_featureAttributes (key : Json) : Harmless (featureAttributes lua key) := by
  unfold featureAttributes
  split
  · exact .pure _
  · next entry hentry =>
    obtain ⟨k, -, hlookup⟩ := Option.bind_eq_some_iff.1 hentry
    exact .bind (harmless_attributes (mem_of_lookup hlookup)).1 fun _ => .pure _

theorem harmless_gather (keys : List Json) : Harmless (gather lua keys) := by
  induction keys with
  | nil => exact .pure _
  | cons key keys ih =>
    refine .bind (harmless_featureAttributes key) fun v => ?_
    refine .bind ih fun r => ?_
    cases v <;> exact .pure _

theorem harmless_handleAttributeGet (topic : Text) (payload : Json) :
    Harmless (handleAttributeGet lua topic payload) := by
  refine .bind (harmless_evaluate _) fun keys => ?_
  refine .bind harmless_replyBody fun body => ?_
  refine .ite (fun _ => ?_) fun _ => ?_
  · exact .bind (harmless_gather _) fun r => harmless_perform id
  · exact .bind (harmless_gather _) fun r => harmless_perform id

theorem harmless_setAttribute (key : Text) : Harmless (setAttribute lua key value) := by
  unfold setAttribute
  split
  · exact .pure _
  · next set hset =>
    obtain ⟨a, hlookup, hset⟩ := Option.bind_eq_some_iff.1 hset
    exact .bind ((harmless_attributes (mem_of_lookup hlookup)).2 set hset value) fun _ => .pure _

theorem harmless_applySettings (settings : List (Text × Json)) :
    Harmless (applySettings lua settings) := by
  induction settings with
  | nil => exact .pure _
  | cons s settings ih =>
    refine .bind (harmless_setAttribute s.1) fun failed => ?_
    refine .bind ih fun r => ?_
    cases failed <;> exact .pure _

theorem harmless_handleAttributeSet (topic : Text) (payload : Json) :
    Harmless (handleAttributeSet lua topic payload) := by
  refine .bind harmless_replyBody fun body => ?_
  refine .bind (harmless_evaluate _) fun requested => ?_
  exact .bind (harmless_applySettings _) fun r => harmless_perform id

theorem harmless_setEventConfig : Harmless (setEventConfig value) :=
  .bind (harmless_evaluate _) fun _ => harmless_onlyIf (.throw _)

theorem harmless_handleEvent (topic : Text) (payload : Json) :
    Harmless (handleEvent topic payload) := by
  refine .bind (harmless_onlyIf harmless_setEventConfig) fun _ => ?_
  exact .bind harmless_replyBody fun body => harmless_perform id

theorem harmless_evaluate_bind {α β : Type} {x : Except Unit α} {f : α → Script β}
    (h : ∀ a, x = .ok a → Harmless (f a)) : Harmless (evaluate x >>= f) := by
  cases x with
  | ok a => exact h a rfl
  | error e => exact trivial

theorem harmless_handleCommand {topic : Text} {payload : Json}
    (hcommand : (fields '/' topic)[4]? = some "command".toList) (h : ¬NamesForeign topic payload) :
    Harmless (handleCommand lua topic payload) := by
  refine .bind harmless_replyBody fun body => ?_
  cases hentry : commandEntry lua (fields '/' topic)[5]? (fields '/' topic)[6]? with
  | none => exact harmless_perform id
  | some entry =>
    refine harmless_evaluate_bind fun arg harg => ?_
    have hrun : Harmless (entry arg) := by
      obtain ⟨methods, hfeature, hmethod⟩ := Option.bind_eq_some_iff.1 hentry
      obtain ⟨feature, hf, -⟩ := Option.bind_eq_some_iff.1 hfeature
      obtain ⟨method, hm, -⟩ := Option.bind_eq_some_iff.1 hmethod
      rw [hf, hm] at hentry harg
      refine harmless_commandEntry hentry ?_
      rintro rfl hforward object hobject
      by_contra hforeign
      exact h ⟨hcommand, hf, method, hm, hforward, arg, harg, object, hobject, fun _ => hforeign⟩
    refine .bind hrun fun result => ?_
    cases errorOf result with
    | none => exact harmless_perform id
    | some failed => exact harmless_perform id

theorem harmless_handle (h : ¬NamesForeign topic payload) :
    Harmless (handle lua topic payload) := by
  refine .ite (fun _ => harmless_handleAttributeGet topic payload) fun _ => ?_
  refine .ite (fun _ => harmless_handleAttributeSet topic payload) fun _ => ?_
  refine .ite (fun hcommand => harmless_handleCommand hcommand h) fun _ => ?_
  exact .ite (fun _ => harmless_handleEvent topic payload) fun _ => .pure _

/-! ## The router -/

/-- The handlers that have run are those of the features' calls. -/
def Router.OnlyFeatures (r : Router) : Prop := ∀ c ∈ r.invoked, c ∈ featureCalls

theorem Router.onlyFeatures_answer (w : Surroundings) (i : Nat) (a : Action) (r : Router)
    (ha : ¬a.IsForeign) (h : r.OnlyFeatures) : (r.answer w i a).2.OnlyFeatures := by
  cases a with
  | rpc object method params =>
    obtain ⟨c, hc, rfl, rfl⟩ := not_not.1 ha
    intro c' hc'
    obtain hc' | hc' := List.mem_append.1 hc'
    · obtain ⟨sid, hreach, -⟩ := Oui.Env.serve_invoked (Option.mem_toList.1 hc')
      obtain ⟨-, hobject, hmethod⟩ := Oui.Rpc.call.inj hreach.call
      rwa [← Prod.ext (Option.some.inj hobject) (Option.some.inj hmethod)]
    · exact h c' hc'
  | _ => exact h

theorem State.onlyFeatures_handleMessage {s : State} (hmsg : ¬NamesForeign topic payload)
    (h : s.router.OnlyFeatures) : (s.handleMessage lua topic raw payload clean w).router.OnlyFeatures := by
  unfold State.handleMessage
  split_ifs
  · exact h
  · have hadopt : ((s.note (State.requestKey topic raw) clean).adopt topic).router.OnlyFeatures := by
      unfold State.adopt
      split
      · split_ifs <;> exact h
      · exact h
    exact (harmless_handle hmsg).exec_invariant (Router.onlyFeatures_answer w) hadopt
  · exact h

theorem State.onlyFeatures_step {s : State} (he : NothingForwarded lua e)
    (h : s.router.OnlyFeatures) : (s.step lua e).router.OnlyFeatures := by
  cases e with
  | tick n => exact h
  | publish topic data clean w =>
    simp only [State.step]
    cases hraw : parseMessage data with
    | none => exact h
    | some raw =>
      simp only
      cases hpayload : lua.decode raw with
      | none => exact h
      | some payload => exact onlyFeatures_handleMessage (he raw payload hraw hpayload) h

/-- In every run in which the broker does not ask the forwarder for other calls, only handlers run
that the features call. None is one of the object `upgrade`. -/
theorem no_upgrade_from_cloud {s : State} {es : List Event} (h0 : s.router.invoked = [])
    (hes : (machine lua).Admits (fun _ e => NothingForwarded lua e) s es) :
    ∀ c ∈ ((machine lua).run s es).router.invoked, c ∈ featureCalls ∧ c.1 ≠ "upgrade" := by
  have hstart : s.router.OnlyFeatures := by
    intro c hc
    rw [h0] at hc
    cases hc
  have hend : ((machine lua).run s es).router.OnlyFeatures :=
    Machine.invariant (I := fun s => s.router.OnlyFeatures) (fun _ _ => State.onlyFeatures_step) hes
      hstart
  have hother : ∀ c ∈ featureCalls, c.1 ≠ "upgrade".toList := by decide
  exact fun c hc => ⟨hend c hc, hother c (hend c hc)⟩

end

def Action.noAnswer : (a : Action) → a.Answer
  | .rpc _ _ _ | .ubusCall _ _ _ | .compose _ _ => (none : Option Json)
  | .uciGet _ _ _ => (none : Option Text)
  | .wifiLogical => ([] : List (Text × Text))
  | .currentTime => (0 : Rat)
  | .readFile _ => ([] : Text)
  | .ubusSend _ _ | .uciSet _ _ _ _ | .uciDelete _ _ _ | .uciCommit _ | .execute _ | .sync
  | .sleep | .publish _ _ => ()

/-- A message to the forwarder with these values, for a router whose RPC objects all have the
method. -/
def forwarded (object method : String) (params : Json) : Runtime × List Event :=
  (⟨⟨fun _ => none, fun _ => []⟩,
      fun _ => some (.arr [.str object.toList, .str method.toList, params])⟩,
    [.publish "/sys/m/v/a/command/base/rpc/request"
      ('G' :: 'L' :: Char.ofNat 2 :: "000[]") false
      { answer := fun _ => Action.noAnswer
        env := fun _ => { objects := fun _ => .table [(method.toList, true)] }
        ipv6 := fun _ => false }])

def invokedBy (message : Runtime × List Event) : List (Text × Text) :=
  ((machine message.1).run {} message.2).router.invoked

/-- The forwarder runs what a feature also calls. -/
theorem no_upgrade_from_cloud_clients :
    invokedBy (forwarded "clients" "get_list" (.obj [])) = [("clients".toList, "get_list".toList)] ∧
      ∀ c ∈ invokedBy (forwarded "clients" "get_list" (.obj [])),
        c ∈ featureCalls ∧ c.1 ≠ "upgrade" := by
  refine ⟨by decide, no_upgrade_from_cloud rfl (.of_forall ?_ _)⟩
  intro e he s
  obtain rfl := List.mem_singleton.1 he
  rintro raw payload - ⟨⟩ ⟨-, -, method, -, -, values, hvalues, object, hobject, hforeign⟩
  cases hvalues
  cases hobject
  exact hforeign .null ⟨("clients", "get_list"), by decide, rfl, rfl⟩

/-- Messages of the broker start the upgrade of the firmware, and send the modem the command that
downloads one of its own. -/
theorem upgrade_from_cloud :
    invokedBy (forwarded "upgrade" "upgrade_online" (.obj [])) =
        [("upgrade".toList, "upgrade_online".toList)] ∧
      invokedBy (forwarded "modem" "send_at_command" (.obj [("command",
        .str "AT+QFOTADL=\"http://host/package\"")])) =
          [("modem".toList, "send_at_command".toList)] := by
  decide

end GlXe3000.Cloud
