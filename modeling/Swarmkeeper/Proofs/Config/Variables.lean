import Swarmkeeper.Config.Environment
import Swarmkeeper.Proofs.Config.Phrasing
import Swarmkeeper.Proofs.Config.RoundTrip
import Swarmkeeper.Proofs.Config.Validation
import Swarmkeeper.Proofs.Text.Numeral

/-!
# Variables and files agree

What the variables say can be said in a file: as the object whose members say just this. Both are read as
the same configuration, or refused for the same reason. A variable that cannot be read is refused before
that, the number before the boolean, and both before the proxy.
-/

namespace Swarmkeeper

open Swarmkeeper.Json Swarmkeeper.Text

/-! ## Objects with some of their members -/

namespace Json

/-- The members that are there. -/
def present (entries : List (String × Option Tree)) : List (String × Tree) :=
  entries.filterMap fun entry => entry.2.map (entry.1, ·)

/-- The object of the members that are there, if there are any. -/
def section? (entries : List (String × Option Tree)) : Option Tree :=
  if (present entries).isEmpty then none else some (.ofMembers (present entries))

/-- A value is read from what is given for it; if nothing is given, it is the one that holds anyway. -/
def Codec.Finds {α : Type} (c : Codec α) (base x : α) : Option Tree → Prop
  | none => x = base
  | some t => c.read t = .ok x

theorem Codec.finds_map {α : Type} {c : Codec α} {write : α → Tree} (h : ∀ x, c.read (write x) = .ok x)
    (base : α) (o : Option α) : c.Finds base (o.getD base) (o.map write) := by
  cases o with
  | none => rfl
  | some x => exact h x

namespace Record

variable {σ α : Type} {entries : List (String × Option Tree)} {names : List String}
  {fields fs : List (RecordField σ)} {s s' base : σ}

theorem map_fst_present_sublist (entries : List (String × Option Tree)) :
    ((present entries).map (·.1)).Sublist (entries.map (·.1)) := by
  induction entries with
  | nil => exact .slnil
  | cons entry entries ih =>
      obtain ⟨name, o⟩ := entry
      cases o with
      | none => exact ih.cons _
      | some t => exact ih.cons_cons _

theorem content_present (hn : (entries.map (·.1)).Nodup) {name : String} {o : Option Tree}
    (h : (name, o) ∈ entries) : content (present entries) name = o := by
  induction entries with
  | nil => cases h
  | cons entry entries ih =>
      rw [List.map_cons, List.nodup_cons] at hn
      rcases List.mem_cons.mp h with rfl | hm
      · cases o with
        | some t => exact content_cons_self name t _
        | none => exact content_eq_none fun hm => hn.1 ((map_fst_present_sublist entries).subset hm)
      · obtain ⟨key, v⟩ := entry
        have hne : name ≠ key := by
          rintro rfl
          exact hn.1 (List.mem_map.mpr ⟨_, hm, rfl⟩)
        cases v with
        | some t => exact (content_cons_of_ne hne t _).trans (ih hn.2 hm)
        | none => exact ih hn.2 hm

theorem content_present_of_not_mem {name : String} (h : name ∉ entries.map (·.1)) :
    content (present entries) name = none :=
  content_eq_none fun hm => h ((map_fst_present_sublist entries).subset hm)

theorem Gathers.absent {f : RecordField σ} (hnames : entries.map (·.1) = names) (h : f.name ∉ names)
    (hr : Gathers (content (present entries)) fs s s') : Gathers (content (present entries)) (f :: fs) s s' :=
  .skip (content_present_of_not_mem (hnames ▸ h)) hr

theorem gathers_rest (hnames : entries.map (·.1) = names) (h : ∀ name ∈ fs.map (·.name), name ∉ names)
    (s : σ) : Gathers (content (present entries)) fs s s := by
  induction fs with
  | nil => exact .nil s
  | cons f fs ih =>
      rw [List.map_cons, List.forall_mem_cons] at h
      exact .absent hnames h.1 (ih h.2)

theorem Gathers.present {name : String} {c : Codec α} {get : σ → α} {set : α → σ → σ} {o : Option Tree}
    {x : α} (hnames : entries.map (·.1) = names) (hn : names.Nodup) (hm : (name, o) ∈ entries)
    (h : c.Finds (get s) x o) (hset : set (get s) s = s)
    (hr : Gathers (content (present entries)) fs (set x s) s') :
    Gathers (content (present entries)) (.of name c get set :: fs) s s' := by
  have ho := content_present (hnames ▸ hn) hm
  cases o with
  | none =>
      cases h
      rw [hset] at hr
      exact .skip ho hr
  | some t => exact .field ho (RecordField.read_of.mpr ⟨x, h, rfl⟩) hr

/-- A record is read from the members that are there, and the rest is as before. -/
theorem read_present (name : String) (hfields : Regular fields) (hnames : entries.map (·.1) = names)
    (hn : names.Nodup) (hknown : ∀ name ∈ names, isKnown fields name = true)
    (h : Gathers (content (present entries)) fields base s) :
    (codec name fields base).read (.ofMembers (present entries)) = .ok s := by
  have hsub := hnames ▸ map_fst_present_sublist entries
  refine (readMembers_nil_iff hfields).mpr ⟨⟨(hn.sublist hsub).filter _, fun m hm hk => ?_⟩, h⟩
  rw [hknown _ (hsub.subset (List.mem_map_of_mem hm))] at hk
  cases hk

/-- A section is read from the members that are given for it. -/
theorem finds_section (name : String) (hfields : Regular fields) (hnames : entries.map (·.1) = names)
    (hn : names.Nodup) (hknown : ∀ name ∈ names, isKnown fields name = true)
    (h : Gathers (content (present entries)) fields base s) :
    (codec name fields base).Finds base s (section? entries) := by
  rw [section?]
  split
  · rename_i he
    rw [List.isEmpty_iff.mp he] at h
    exact (gathers_none.mp h).symm
  · exact read_present name hfields hnames hn hknown h

end Record

/-! ## Members that can be written -/

variable {entries : List (String × Option Tree)}

theorem isPlain_map {α : Type} {write : α → Tree} (h : ∀ x, (write x).IsPlain) (o : Option α) :
    ∀ t ∈ o.map write, t.IsPlain := by
  cases o with
  | none => simp
  | some x => simpa using h x

theorem isPlain_present (h : ∀ entry ∈ entries, ∀ t ∈ entry.2, t.IsPlain) :
    (Tree.ofMembers (present entries)).IsPlain := by
  show (Record.named (present entries)).IsPlain
  induction entries with
  | nil => trivial
  | cons entry entries ih =>
      rw [List.forall_mem_cons] at h
      obtain ⟨name, o⟩ := entry
      cases o with
      | none => exact ih h.2
      | some t => exact ⟨⟨name, rfl⟩, h.1 t rfl, ih h.2⟩

theorem isPlain_section (h : ∀ entry ∈ entries, ∀ t ∈ entry.2, t.IsPlain) :
    ∀ t ∈ section? entries, t.IsPlain := by
  intro t ht
  rw [section?] at ht
  split at ht
  · cases ht
  · cases ht
    exact isPlain_present h

end Json

/-! ## What is said by hand -/

namespace Config

/-- What is said of a configuration by hand; the proxy as a text. -/
structure Overrides where
  version : Option String
  proxy : Option String
  address : Option String
  warmup : Option UInt64
  saveDirectory : Option String
  blockMalformedIds : Option Bool

namespace Overrides

/-- The standard configuration with what is said instead. -/
def config (o : Overrides) : Config :=
  { standard with
    client.version := o.version.getD standard.client.version
    proxy := (o.proxy.map proxyOfVariable).getD standard.proxy
    service.address := o.address.getD standard.service.address
    service.warmup := o.warmup.getD standard.service.warmup
    storage.saveDirectory := o.saveDirectory.getD standard.storage.saveDirectory
    peerFilter.blockMalformedIds := o.blockMalformedIds.getD standard.peerFilter.blockMalformedIds }

/-- The object of a proxy that is said as a text. -/
def proxyTree (value : String) : Tree :=
  if trim value = "" ∨ trim value = "none" then .ofMembers [("kind", .text "disabled")]
  else .ofMembers [("kind", .text "http"), ("url", .text (trim value))]

/-- The members of the sections in which something is said. -/
def clientEntries (o : Overrides) : List (String × Option Tree) := [("version", o.version.map .text)]

def serviceEntries (o : Overrides) : List (String × Option Tree) :=
  [("address", o.address.map .text), ("warmup", o.warmup.map fun n => .natural n.toNat)]

def storageEntries (o : Overrides) : List (String × Option Tree) :=
  [("save_dir", o.saveDirectory.map .text)]

def filterEntries (o : Overrides) : List (String × Option Tree) :=
  [("block_invalid_peer_id", o.blockMalformedIds.map .bool)]

def entries (o : Overrides) : List (String × Option Tree) :=
  [("client", section? o.clientEntries), ("proxy", o.proxy.map proxyTree),
    ("service", section? o.serviceEntries), ("storage", section? o.storageEntries),
    ("peer_filter", section? o.filterEntries)]

/-- The object that says the same and nothing else. -/
def toTree (o : Overrides) : Tree := .ofMembers (present o.entries)

def toText (o : Overrides) : String := String.ofList o.toTree.toChars

variable (o : Overrides)

theorem read_proxyTree (value : String) :
    (Web.Proxy.codec 2).read (proxyTree value) = .ok (proxyOfVariable value) := by
  rw [proxyTree, proxyOfVariable]
  split <;> rfl

theorem finds_text (base : String) (s : Option String) :
    Codec.text.Finds base (s.getD base) (s.map .text) := Codec.finds_map (fun _ => rfl) base s

theorem finds_client : Client.codec.Finds standard.client o.config.client (section? o.clientEntries) := by
  have hnames : o.clientEntries.map (·.1) = ["version"] := rfl
  refine Record.finds_section _ Client.regular hnames (by decide) (by decide) ?_
  exact .present hnames (by decide) List.mem_cons_self (finds_text _ _) rfl
    (Record.gathers_rest hnames (by decide) _)

theorem finds_service : Service.codec.Finds standard.service o.config.service
    (section? o.serviceEntries) := by
  have hnames : o.serviceEntries.map (·.1) = ["address", "warmup"] := rfl
  have hwarmup : Codec.word64.Finds standard.service.warmup o.config.service.warmup
      (o.warmup.map fun n => .natural n.toNat) :=
    Codec.finds_map (fun n => (Codec.keeps_word64 n).read) _ _
  refine Record.finds_section _ Service.regular hnames (by decide) (by decide) ?_
  refine .present hnames (by decide) List.mem_cons_self (finds_text _ _) rfl ?_
  refine .absent hnames (by decide) (.absent hnames (by decide) ?_)
  exact .present hnames (by decide) (.tail _ List.mem_cons_self) hwarmup rfl
    (Record.gathers_rest hnames (by decide) _)

theorem finds_storage : Storage.codec.Finds standard.storage o.config.storage
    (section? o.storageEntries) := by
  have hnames : o.storageEntries.map (·.1) = ["save_dir"] := rfl
  refine Record.finds_section _ Storage.regular hnames (by decide) (by decide) ?_
  exact .present hnames (by decide) List.mem_cons_self (Codec.finds_map (fun _ => rfl) _ _) rfl
    (Record.gathers_rest hnames (by decide) _)

theorem finds_filter : Admission.Policy.codec.Finds standard.peerFilter o.config.peerFilter
    (section? o.filterEntries) := by
  have hnames : o.filterEntries.map (·.1) = ["block_invalid_peer_id"] := rfl
  refine Record.finds_section _ Admission.Policy.regular hnames (by decide) (by decide) ?_
  refine .absent hnames (by decide) (.absent hnames (by decide) (.absent hnames (by decide)
    (.absent hnames (by decide) (.absent hnames (by decide) ?_))))
  exact .present hnames (by decide) List.mem_cons_self (Codec.finds_map (fun _ => rfl) _ _) rfl
    (Record.gathers_rest hnames (by decide) _)

theorem finds_proxy :
    (Web.Proxy.codec 2).Finds standard.proxy o.config.proxy (o.proxy.map proxyTree) := by
  cases ho : o.proxy with
  | none => simp [Codec.Finds, config, ho]
  | some value => simpa [Codec.Finds, config, ho] using read_proxyTree value

/-- The object that says what the variables say is read as the same configuration. -/
theorem read_toTree : codec.read o.toTree = .ok o.config := by
  have hnames : o.entries.map (·.1) = ["client", "proxy", "service", "storage", "peer_filter"] := rfl
  refine Record.read_present _ regular hnames (by decide) (by decide) ?_
  refine .present hnames (by decide) (by simp [entries]) o.finds_client rfl (.absent hnames (by decide) ?_)
  refine .present hnames (by decide) (by simp [entries]) o.finds_service rfl ?_
  refine .present hnames (by decide) (by simp [entries]) o.finds_storage rfl ?_
  refine .present hnames (by decide) (by simp [entries]) o.finds_filter rfl ?_
  exact .present hnames (by decide) (by simp [entries]) o.finds_proxy rfl (.nil _)

theorem isPlain_proxyTree (value : String) : (proxyTree value).IsPlain := by
  rw [proxyTree]
  split
  · exact ⟨⟨_, rfl⟩, ⟨_, rfl⟩, trivial⟩
  · exact ⟨⟨_, rfl⟩, ⟨_, rfl⟩, ⟨_, rfl⟩, ⟨_, rfl⟩, trivial⟩

theorem isPlain_toTree : o.toTree.IsPlain := by
  have text (s : Option String) : ∀ t ∈ s.map Tree.text, t.IsPlain :=
    isPlain_map (Codec.keeps_text · |>.plain) s
  refine isPlain_present ?_
  simp only [entries, List.forall_mem_cons, List.not_mem_nil, false_imp_iff, implies_true, and_true]
  refine ⟨isPlain_section ?_, isPlain_map isPlain_proxyTree _, isPlain_section ?_, isPlain_section ?_,
    isPlain_section ?_⟩
  · simpa only [clientEntries, List.forall_mem_singleton] using text _
  · simp only [serviceEntries, List.forall_mem_cons, List.not_mem_nil, false_imp_iff, implies_true, and_true]
    exact ⟨text _, isPlain_map (Codec.keeps_word64 · |>.plain) _⟩
  · simpa only [storageEntries, List.forall_mem_singleton] using text _
  · simp only [filterEntries, List.forall_mem_singleton]
    exact isPlain_map (Codec.keeps_bool · |>.plain) _

end Overrides

/-! ## What variables say -/

variable {env : Environment} {key value : String} {c : Config} {o : Overrides}

/-- A number of milliseconds with blanks around it, below the bound of its type. -/
def IsMillis (value : String) : Prop := ∃ n < 0x10000000000000000, Writes (trim value).toList n

/-- A boolean with blanks around it. -/
def IsBoolean (value : String) : Prop := trim value = "true" ∨ trim value = "false"

/-- No proxy, or the URL of one that can be used, with blanks around it. -/
def IsProxy (value : String) : Prop :=
  trim value = "" ∨ trim value = "none" ∨ (Web.Proxy.ofUrl (trim value)).Usable

def WarmupReads (env : Environment) : Prop := ∀ value ∈ env "TIDAL_SERVICE_WARMUP_MS", IsMillis value

def BlockReads (env : Environment) : Prop := ∀ value ∈ env "TIDAL_BLOCK_INVALID_PEER_ID", IsBoolean value

def ProxyReads (env : Environment) : Prop := ∀ value ∈ env "TIDAL_PROXY", IsProxy value

/-- The variables say this by hand. -/
structure Sets (env : Environment) (o : Overrides) : Prop where
  version : o.version = env "TIDAL_VERSION"
  proxy : o.proxy = env "TIDAL_PROXY"
  address : o.address = env "TIDAL_SERVICE_ADDR"
  warmup : Option.Rel (fun value n => Writes (trim value).toList n.toNat) (env "TIDAL_SERVICE_WARMUP_MS")
    o.warmup
  saveDirectory : o.saveDirectory = env "TIDAL_SAVE_DIR"
  blockMalformedIds : Option.Rel (fun value b => trim value = boolText b) (env "TIDAL_BLOCK_INVALID_PEER_ID")
    o.blockMalformedIds

theorem exists_rel {α β : Type} {r : α → β → Prop} {o : Option α} (h : ∀ a ∈ o, ∃ b, r a b) :
    ∃ p, Option.Rel r o p := by
  cases o with
  | none => exact ⟨none, .none⟩
  | some a =>
      obtain ⟨b, hb⟩ := h a rfl
      exact ⟨some b, .some hb⟩

theorem exists_millis {o : Option String} (h : ∀ value ∈ o, IsMillis value) :
    ∃ x, Option.Rel (fun value (n : UInt64) => Writes (trim value).toList n.toNat) o x := by
  refine exists_rel fun value hv => ?_
  obtain ⟨n, hn, hw⟩ := h value hv
  exact ⟨UInt64.ofNat n, by rwa [UInt64.toNat_ofNat_of_lt' hn]⟩

/-- Variables that can be read say something. -/
theorem exists_sets (hwarmup : WarmupReads env) (hblock : BlockReads env) : ∃ o, Sets env o := by
  obtain ⟨warmup, hwarmup⟩ := exists_millis hwarmup
  obtain ⟨block, hblock⟩ := exists_rel (r := fun value b => trim value = boolText b) fun value hv =>
    (hblock value hv).elim (⟨true, ·⟩) (⟨false, ·⟩)
  exact ⟨⟨_, _, _, warmup, _, block⟩, rfl, rfl, rfl, hwarmup, rfl, hblock⟩

theorem readBelow_eq_ok_iff {limit n : Nat} {cs : List Char} (hl : 0 < limit) :
    readBelow limit cs = .ok n ↔ Writes cs n ∧ n < limit := by
  rw [← readBelow?_eq_some_iff hl, readBelow?]
  cases readBelow limit cs <;> simp [Except.toOption]

theorem readMillis_eq_ok (key : String) {n : UInt64} (h : Writes (trim value).toList n.toNat) :
    readMillis key value = .ok n := by
  rw [readMillis, (readBelow_eq_ok_iff (by decide)).mpr ⟨h, n.toNat_lt⟩]
  exact congrArg Except.ok UInt64.ofNat_toNat

theorem readMillis_fault (key : String) (h : ¬ IsMillis value) :
    ∃ f : NumeralFault, readMillis key value = .error (.invalid key s!"'{value}': {f.message}") := by
  rw [readMillis]
  cases hr : readBelow 0x10000000000000000 (trim value).toList with
  | ok n =>
      obtain ⟨hw, hn⟩ := (readBelow_eq_ok_iff (by decide)).mp hr
      exact absurd ⟨n, hn, hw⟩ h
  | error f => exact ⟨f, rfl⟩

theorem readBoolean_eq_ok (key : String) {b : Bool} (h : trim value = boolText b) :
    readBoolean key value = .ok b := by
  rw [readBoolean, h]
  cases b <;> rfl

theorem readBoolean_fault (key : String) (h : ¬ IsBoolean value) :
    readBoolean key value = .error (.invalid key s!"'{value}': {booleanReason}") := by
  rw [readBoolean]
  split
  · exact absurd (.inl ‹_›) h
  · exact absurd (.inr ‹_›) h
  · rfl

/-! ## One variable after the other -/

theorem ok_bind {ε α β : Type} (a : α) (f : α → Except ε β) : (Except.ok a >>= f) = f a := rfl

theorem override_setting (f : String → Config → Config) (c : Config) :
    override env key (fun value c => .ok (f value c)) c = .ok ((env key).elim c (f · c)) := by
  rw [override]
  cases env key <;> rfl

section

variable {α : Type} {read : String → Except Fault α} (f : α → Config → Config)

theorem override_read {means : String → α → Prop} {x : Option α} (h : Option.Rel means (env key) x)
    (hread : ∀ {value x}, means value x → read value = .ok x) (c : Config) :
    override env key (fun value c => do let x ← read value; .ok (f x c)) c = .ok (x.elim c (f · c)) := by
  rw [override]
  generalize env key = o at h
  cases h with
  | none => rfl
  | some h => simp [hread h, bind, Except.bind]

theorem override_fault {fault : Fault} (h : value ∈ env key) (hread : read value = .error fault)
    (c : Config) :
    override env key (fun value c => do let x ← read value; .ok (f x c)) c = .error fault := by
  rw [override, Option.mem_def.mp h]
  simp [hread, bind, Except.bind]

end

/-- What variables say that can be read is checked like any other configuration. -/
theorem ofEnvironment_eq (h : Sets env o) : ofEnvironment env = o.config.checked := by
  let c₁ : Config := { standard with client.version := o.version.getD standard.client.version }
  let c₂ : Config := { c₁ with proxy := (o.proxy.map proxyOfVariable).getD c₁.proxy }
  let c₃ : Config := { c₂ with service.address := o.address.getD c₂.service.address }
  let c₄ : Config := { c₃ with service.warmup := o.warmup.getD c₃.service.warmup }
  let c₅ : Config := { c₄ with storage.saveDirectory := o.saveDirectory.getD c₄.storage.saveDirectory }
  have h₁ : o.version.elim standard (fun v => { standard with client.version := v }) = c₁ := by
    simp only [c₁]
    cases o.version <;> rfl
  have h₂ : o.proxy.elim c₁ (fun v => { c₁ with proxy := proxyOfVariable v }) = c₂ := by
    simp only [c₂]
    cases o.proxy <;> rfl
  have h₃ : o.address.elim c₂ (fun v => { c₂ with service.address := v }) = c₃ := by
    simp only [c₃]
    cases o.address <;> rfl
  have h₄ : o.warmup.elim c₃ (fun n => { c₃ with service.warmup := n }) = c₄ := by
    simp only [c₄]
    cases o.warmup <;> rfl
  have h₅ : o.saveDirectory.elim c₄ (fun v => { c₄ with storage.saveDirectory := v }) = c₅ := by
    simp only [c₅]
    cases o.saveDirectory <;> rfl
  have h₆ : o.blockMalformedIds.elim c₅ (fun b => { c₅ with peerFilter.blockMalformedIds := b }) =
      o.config := by
    simp only [Overrides.config]
    cases o.blockMalformedIds <;> rfl
  rw [ofEnvironment, override_setting fun v c => { c with client.version := v }, ← h.version, h₁, ok_bind,
    override_setting fun v c => { c with proxy := proxyOfVariable v }, ← h.proxy, h₂, ok_bind,
    override_setting fun v c => { c with service.address := v }, ← h.address, h₃, ok_bind,
    override_read (fun n c => { c with service.warmup := n }) h.warmup (readMillis_eq_ok _), h₄, ok_bind,
    override_setting fun v c => { c with storage.saveDirectory := v }, ← h.saveDirectory, h₅, ok_bind,
    override_read (fun b c => { c with peerFilter.blockMalformedIds := b }) h.blockMalformedIds
      (readBoolean_eq_ok _), h₆, ok_bind]

theorem ofEnvironment_of_warmup {fault : Fault} (hv : value ∈ env "TIDAL_SERVICE_WARMUP_MS")
    (h : readMillis "TIDAL_SERVICE_WARMUP_MS" value = .error fault) : ofEnvironment env = .error fault := by
  rw [ofEnvironment, override_setting fun v c => { c with client.version := v }, ok_bind,
    override_setting fun v c => { c with proxy := proxyOfVariable v }, ok_bind,
    override_setting fun v c => { c with service.address := v }, ok_bind,
    override_fault (fun n c => { c with service.warmup := n }) hv h]
  rfl

theorem ofEnvironment_of_block {fault : Fault} (hwarmup : WarmupReads env)
    (hv : value ∈ env "TIDAL_BLOCK_INVALID_PEER_ID")
    (h : readBoolean "TIDAL_BLOCK_INVALID_PEER_ID" value = .error fault) :
    ofEnvironment env = .error fault := by
  obtain ⟨_, hmillis⟩ := exists_millis hwarmup
  rw [ofEnvironment, override_setting fun v c => { c with client.version := v }, ok_bind,
    override_setting fun v c => { c with proxy := proxyOfVariable v }, ok_bind,
    override_setting fun v c => { c with service.address := v }, ok_bind,
    override_read (fun n c => { c with service.warmup := n }) hmillis (readMillis_eq_ok _), ok_bind,
    override_setting fun v c => { c with storage.saveDirectory := v }, ok_bind,
    override_fault (fun b c => { c with peerFilter.blockMalformedIds := b }) hv h]
  rfl

/-- Nothing but the proxy can be wrong with what is said by hand. -/
theorem fault?_config (o : Overrides) :
    o.config.fault? = o.config.proxy.fault?.map fun f => .invalid "proxy" f.message := by
  have htag : Identity.isTag o.config.client.tag = true := by
    show Identity.isTag "TD" = true
    decide +kernel
  have hkinds : repeated? [] (o.config.engines.map (·.kind)) = none := rfl
  rw [fault?, htag, hkinds]
  cases o.config.proxy.fault? <;> rfl

theorem proxy_config (h : Sets env o) :
    o.config.proxy = ((env "TIDAL_PROXY").map proxyOfVariable).getD .disabled := by
  rw [← h.proxy]
  rfl

theorem fault?_proxyOfVariable_eq_none_iff : (proxyOfVariable value).fault? = none ↔ IsProxy value := by
  rw [Web.Proxy.fault?_eq_none_iff, proxyOfVariable, IsProxy, ← or_assoc]
  split
  · simp_all [Web.Proxy.Usable]
  · simp_all

theorem fault?_eq_none (h : Sets env o) :
    o.config.fault? = none ↔ ProxyReads env := by
  rw [fault?_config, Option.map_eq_none_iff, proxy_config h, ProxyReads]
  cases env "TIDAL_PROXY" with
  | none => simp [Web.Proxy.fault?]
  | some value => simp [fault?_proxyOfVariable_eq_none_iff]

/-- Variables and files agree. -/
structure Agrees (env : Environment) : Prop where
  accepted : (∃ c, ofEnvironment env = .ok c) ↔
    WarmupReads env ∧ BlockReads env ∧ ProxyReads env
  /-- What number and boolean say can be said by hand, -/
  said : WarmupReads env → BlockReads env → ∃ o, Sets env o
  /-- and comes to the same in a file, be it read or refused. -/
  same : ∀ o text, Sets env o → Document.ofChars text.toList = ⟨o.toTree, false⟩ →
    ofEnvironment env = ofText text
  written : ∀ o, Sets env o → ofEnvironment env = ofText o.toText
  /-- The rest is as usual. -/
  values : ∀ o c, Sets env o → ofEnvironment env = .ok c → c = o.config
  warmup : ∀ value ∈ env "TIDAL_SERVICE_WARMUP_MS", ¬ IsMillis value →
    ∃ f : NumeralFault,
      ofEnvironment env = .error (.invalid "TIDAL_SERVICE_WARMUP_MS" s!"'{value}': {f.message}")
  block : WarmupReads env → ∀ value ∈ env "TIDAL_BLOCK_INVALID_PEER_ID", ¬ IsBoolean value →
    ofEnvironment env = .error (.invalid "TIDAL_BLOCK_INVALID_PEER_ID" s!"'{value}': {booleanReason}")
  proxy : WarmupReads env → BlockReads env → ∀ value ∈ env "TIDAL_PROXY", ¬ IsProxy value →
    ∃ f, (proxyOfVariable value).fault? = some f ∧ ofEnvironment env = .error (.invalid "proxy" f.message)

theorem ofText_eq {text : String} (h : Document.ofChars text.toList = ⟨o.toTree, false⟩) :
    ofText text = o.config.checked :=
  ofText_of_read (by rw [h]; exact o.read_toTree) (by rw [h])

/-- The variables of an environment configure what an object with the same members would, and the first of
them that cannot be read decides the fault. -/
theorem variables_agree (env : Environment) : Agrees env where
  accepted := by
    constructor
    · rintro ⟨c, hc⟩
      have hwarmup : WarmupReads env := by
        intro value hv
        by_contra hn
        obtain ⟨f, hf⟩ := readMillis_fault "TIDAL_SERVICE_WARMUP_MS" hn
        rw [ofEnvironment_of_warmup hv hf] at hc
        cases hc
      have hblock : BlockReads env := by
        intro value hv
        by_contra hn
        rw [ofEnvironment_of_block hwarmup hv (readBoolean_fault _ hn)] at hc
        cases hc
      obtain ⟨o, ho⟩ := exists_sets hwarmup hblock
      rw [ofEnvironment_eq ho] at hc
      exact ⟨hwarmup, hblock, (fault?_eq_none ho).mp (checked_eq_ok_iff.mp hc).1⟩
    · rintro ⟨hwarmup, hblock, hproxy⟩
      obtain ⟨o, ho⟩ := exists_sets hwarmup hblock
      have hchecked := checked_of_sound ((fault?_eq_none ho).mpr hproxy)
      exact ⟨o.config, (ofEnvironment_eq ho).trans hchecked⟩
  said := exists_sets
  same o text ho htext := (ofEnvironment_eq ho).trans (ofText_eq htext).symm
  written o ho := by
    refine (ofEnvironment_eq ho).trans (ofText_eq ?_).symm
    rw [Overrides.toText, String.toList_ofList]
    exact ofChars_toChars o.isPlain_toTree
  values o c ho hc := by
    rw [ofEnvironment_eq ho] at hc
    exact (checked_eq_ok_iff.mp hc).2.symm
  warmup value hv hn := by
    obtain ⟨f, hf⟩ := readMillis_fault "TIDAL_SERVICE_WARMUP_MS" hn
    exact ⟨f, ofEnvironment_of_warmup hv hf⟩
  block hwarmup value hv hn := ofEnvironment_of_block hwarmup hv (readBoolean_fault _ hn)
  proxy hwarmup hblock value hv hn := by
    obtain ⟨o, ho⟩ := exists_sets hwarmup hblock
    have hproxy : o.config.proxy = proxyOfVariable value := by
      rw [proxy_config ho, Option.mem_def.mp hv]
      rfl
    obtain ⟨f, hf⟩ := Option.ne_none_iff_exists'.mp (mt fault?_proxyOfVariable_eq_none_iff.mp hn)
    refine ⟨f, hf, ?_⟩
    rw [ofEnvironment_eq ho, checked_of_fault?]
    rw [fault?_config, hproxy, hf]
    rfl

end Config

end Swarmkeeper
