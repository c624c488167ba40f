import Swarmkeeper.Proofs.Config.RoundTrip
import Swarmkeeper.Proofs.Json.Phrasing

/-!
# A configuration says what it says

Two texts that differ only in how they put it are read as the same configuration. Its objects have their
members in any order, besides others that nobody asks for; what holds anyway may be said or not; and a section
is the list of its values as well.
-/

namespace Swarmkeeper

open Swarmkeeper.Json

/-! ## The proxy -/

namespace Web.Proxy

open Swarmkeeper.Json.Record

variable {depth : Nat} {form : Option Form} {f : Form} {name : String} {v : Tree}
  {ms ms' : List (String × Tree)} {t t' : Tree} {p : Proxy}

/-- A change of what a proxy is read from: its members stand in another order, or something is changed inside
one that is kept without being looked at. -/
inductive Change (depth : Nat) : Tree → Tree → Prop where
  | reorder {ms ms' : List (String × Tree)} (h : ms.Perm ms') : Change depth (.ofMembers ms) (.ofMembers ms')
  | member {before after : List (String × Tree)} {key : String} {v v' : Tree} (h : Kept depth v v') :
      Change depth (.ofMembers (before ++ (key, v) :: after)) (.ofMembers (before ++ (key, v') :: after))

theorem readKind_cons_kind : readKind depth form (named (("kind", v) :: ms)) = .ok f ↔
    form = none ∧ ∃ g, readForm v = .ok g ∧ readKind depth (some g) (named ms) = .ok f := by
  have hkey : malformed (.ok "kind") = .ok "kind" := rfl
  show readKind depth form (.member (.ok "kind") v (named ms)) = .ok f ↔ _
  rw [readKind, hkey]
  simp only [bind, Except.bind, if_pos]
  cases form with
  | some g => simp
  | none => cases readForm v <;> simp

theorem readKind_cons_other (hn : name ≠ "kind") : readKind depth form (named ((name, v) :: ms)) = .ok f ↔
    v.keep depth = .ok () ∧ readKind depth form (named ms) = .ok f := by
  have hkey : malformed (.ok name) = .ok name := rfl
  show readKind depth form (.member (.ok name) v (named ms)) = .ok f ↔ _
  rw [readKind, hkey]
  simp only [bind, Except.bind, if_neg hn]
  cases v.keep depth <;> simp [malformed, Except.mapError]

theorem readKind_perm (h : ms.Perm ms') (hr : readKind depth form (named ms) = .ok f) :
    readKind depth form (named ms') = .ok f := by
  induction h generalizing form with
  | nil => exact hr
  | cons m _ ih =>
      obtain ⟨name, v⟩ := m
      by_cases hn : name = "kind"
      · subst hn
        obtain ⟨hform, g, hg, hr⟩ := readKind_cons_kind.mp hr
        exact readKind_cons_kind.mpr ⟨hform, g, hg, ih hr⟩
      · obtain ⟨hv, hr⟩ := (readKind_cons_other hn).mp hr
        exact (readKind_cons_other hn).mpr ⟨hv, ih hr⟩
  | swap x y ms =>
      obtain ⟨name, v⟩ := x
      obtain ⟨key, w⟩ := y
      by_cases hn : name = "kind" <;> by_cases hk : key = "kind"
      · -- the form would be given twice
        subst hn hk
        simp [readKind_cons_kind] at hr
      · subst hn
        simp only [readKind_cons_other hk, readKind_cons_kind] at hr ⊢
        obtain ⟨hw, hform, g, hg, hr⟩ := hr
        exact ⟨hform, g, hg, hw, hr⟩
      · subst hk
        simp only [readKind_cons_other hn, readKind_cons_kind] at hr ⊢
        obtain ⟨hform, g, hg, hv, hr⟩ := hr
        exact ⟨hv, hform, g, hg, hr⟩
      · simp only [readKind_cons_other hk, readKind_cons_other hn] at hr ⊢
        exact ⟨hr.2.1, hr.1, hr.2.2⟩
  | trans _ _ ih ih' => exact ih' (ih hr)

theorem readKind_kept {before after : List (String × Tree)} {v' : Tree} (h : Kept depth v v')
    (hr : readKind depth form (named (before ++ (name, v) :: after)) = .ok f) :
    readKind depth form (named (before ++ (name, v') :: after)) = .ok f := by
  refine readKind_perm List.perm_middle.symm ?_
  replace hr := readKind_perm List.perm_middle hr
  by_cases hn : name = "kind"
  · -- the name of a form is a string, inside which nothing changes
    subst hn
    obtain ⟨-, g, hg, -⟩ := readKind_cons_kind.mp hr
    rcases h.object_or_list with ⟨members, rfl⟩ | ⟨items, rfl⟩ <;> cases hg
  · obtain ⟨hv, hr⟩ := (readKind_cons_other hn).mp hr
    exact (readKind_cons_other hn).mpr ⟨h.keep hv, hr⟩

theorem hasKey_named (name : String) (ms : List (String × Tree)) :
    hasKey name (named ms) = ms.any fun m => m.1 == name := by
  induction ms with
  | nil => rfl
  | cons m ms ih =>
      show (m.1 == name || hasKey name (named ms)) = _
      rw [ih, List.any_cons]

theorem regular_server : Regular ProxyServer.fields :=
  ⟨by decide, by simp [ProxyServer.fields, RecordField.independent_of]⟩

theorem respects_server {f : RecordField ProxyServer} (hf : f ∈ ProxyServer.fields) :
    f.Respects (Kept depth) := by
  -- the fields of a server are texts, inside which nothing changes
  intro v v' s s' h hr
  simp only [ProxyServer.fields, List.mem_cons, List.not_mem_nil, or_false] at hf
  rcases h.object_or_list with ⟨members, rfl⟩ | ⟨items, rfl⟩ <;> rcases hf with rfl | rfl | rfl <;> cases hr

/-- The members of a server are read from what they become. -/
theorem Change.server (h : Change depth t t') (base : ProxyServer) :
    Record.Change ProxyServer.fields (fun _ => Kept depth) base t t' := by
  cases h with
  | reorder h => exact .reorder h
  | @member before after key v v' h =>
      cases hk : isKnown ProxyServer.fields key with
      | false => exact .unread hk h.skipped
      | true =>
          obtain ⟨f, hf, he⟩ := List.any_eq_true.mp hk
          obtain rfl := of_decide_eq_true he
          exact .field hf h

/-- The form and the presence of a URL are the same. -/
theorem Change.keeps_form (h : Change depth t t') : ∃ ms ms', t = .ofMembers ms ∧ t' = .ofMembers ms' ∧
    (∀ f, readKind depth none (named ms) = .ok f → readKind depth none (named ms') = .ok f) ∧
      hasKey "url" (named ms') = hasKey "url" (named ms) := by
  cases h with
  | reorder h =>
      refine ⟨_, _, rfl, rfl, fun f => readKind_perm h, ?_⟩
      rw [hasKey_named, hasKey_named, h.any_eq]
  | member h =>
      refine ⟨_, _, rfl, rfl, fun f => readKind_kept h, ?_⟩
      simp [hasKey_named]

theorem respects (level : Nat) : (codec level).Respects (Change (128 - level)) := by
  intro t t' p h hr
  have hserver := h.server ⟨"", none, none⟩
  obtain ⟨ms, ms', rfl, rfl, hkind, hurl⟩ := h.keeps_form
  change read (128 - level) (.object (named ms)) = .ok p at hr
  show read (128 - level) (.object (named ms')) = .ok p
  rw [read] at hr ⊢
  cases hform : readKind (128 - level) none (named ms) with
  | error e => rw [hform] at hr; cases hr
  | ok form =>
      rw [hform] at hr
      rw [hkind form hform]
      cases form with
      | disabled => exact hr
      | http =>
          cases hs : readMembers ProxyServer.fields [] (named ms) ⟨"", none, none⟩ with
          | error e => simp [hs, bind, Except.bind] at hr
          | ok server =>
              have hs' : readMembers ProxyServer.fields [] (named ms') ⟨"", none, none⟩ = .ok server :=
                Record.respects "" regular_server (fun _ => respects_server) _ _ _ hserver hs
              simpa [hs, hs', hurl, bind, Except.bind] using hr

end Web.Proxy

/-! ## The sections -/

/-- A change of what a client is read from. -/
def Config.Client.Change : Tree → Tree → Prop :=
  Record.Change fields (fun _ => Unchanged) Config.standard.client

theorem Config.Client.regular : Record.Regular fields :=
  ⟨by decide, by simp [fields, RecordField.independent_of]⟩

theorem Config.Client.respects : codec.Respects Change :=
  Record.respects _ regular fun f _ => f.respects_unchanged

/-- A change of what the settings of an engine are read from. -/
def Engine.Settings.Change : Tree → Tree → Prop :=
  Record.Change fields (fun _ => Unchanged) (ofKind .libtorrent)

theorem Engine.Settings.regular : Record.Regular fields :=
  ⟨by decide, by simp [fields, RecordField.independent_of]⟩

theorem Engine.Settings.respects : codec.Respects Change :=
  Record.respects _ regular fun f _ => f.respects_unchanged

/-- A change of what a retry policy is read from. -/
def Service.RetryPolicy.Change : Tree → Tree → Prop :=
  Record.Change fields (fun _ => Unchanged) Config.standard.service.retry

theorem Service.RetryPolicy.regular : Record.Regular fields :=
  ⟨by decide, by simp [fields, RecordField.independent_of]⟩

theorem Service.RetryPolicy.respects : codec.Respects Change :=
  Record.respects _ regular fun f _ => f.respects_unchanged

/-- What may change inside the settings of the service. -/
def Config.Service.inner : String → Tree → Tree → Prop
  | "retry" => Swarmkeeper.Service.RetryPolicy.Change
  | _ => Unchanged

/-- A change of what the settings of the service are read from. -/
def Config.Service.Change : Tree → Tree → Prop := Record.Change fields inner Config.standard.service

theorem Config.Service.regular : Record.Regular fields :=
  ⟨by decide, by simp [fields, RecordField.independent_of]⟩

theorem Config.Service.respects : codec.Respects Change := by
  refine Record.respects _ regular fun f hf => ?_
  simp only [fields, List.mem_cons, List.not_mem_nil, or_false] at hf
  rcases hf with rfl | rfl | rfl | rfl | rfl | rfl | rfl | rfl | rfl
  -- the policy is the only section among them
  any_goals exact RecordField.respects_unchanged _
  exact RecordField.respects_of Swarmkeeper.Service.RetryPolicy.respects

/-- A change of what the directories are read from. -/
def Config.Storage.Change : Tree → Tree → Prop :=
  Record.Change fields (fun _ => Unchanged) Config.standard.storage

theorem Config.Storage.regular : Record.Regular fields :=
  ⟨by decide, by simp [fields, RecordField.independent_of]⟩

theorem Config.Storage.respects : codec.Respects Change :=
  Record.respects _ regular fun f _ => f.respects_unchanged

/-- A change of what a policy is read from. -/
def Admission.Policy.Change : Tree → Tree → Prop :=
  Record.Change fields (fun _ => Unchanged) Config.standard.peerFilter

theorem Admission.Policy.regular : Record.Regular fields :=
  ⟨by decide, by simp [fields, RecordField.independent_of]⟩

theorem Admission.Policy.respects : codec.Respects Change :=
  Record.respects _ regular fun f _ => f.respects_unchanged

/-! ## The whole -/

namespace Config

variable {c : Config} {text text' : String}

/-- What may change inside a configuration. -/
def inner : String → Tree → Tree → Prop
  | "client" => Client.Change
  | "engines" => OfItem Engine.Settings.Change
  | "service" => Service.Change
  | "storage" => Storage.Change
  | "peer_filter" => Admission.Policy.Change
  | "proxy" => Web.Proxy.Change 126
  | _ => Unchanged

/-- A change of what a configuration is read from. -/
def Change : Tree → Tree → Prop := Record.Change fields inner standard

theorem regular : Record.Regular fields :=
  ⟨by decide, by simp [fields, RecordField.independent_of]⟩

theorem respects : codec.Respects Change := by
  refine Record.respects _ regular fun f hf => ?_
  simp only [fields, List.mem_cons, List.not_mem_nil, or_false] at hf
  rcases hf with rfl | rfl | rfl | rfl | rfl | rfl
  · exact RecordField.respects_of Client.respects
  · exact RecordField.respects_of Engine.Settings.respects.list
  · exact RecordField.respects_of Service.respects
  · exact RecordField.respects_of Storage.respects
  · exact RecordField.respects_of Admission.Policy.respects
  · exact RecordField.respects_of (Web.Proxy.respects 2)

/-- The second text is a value that comes from that of the first by such changes. -/
structure Rephrased (text text' : String) : Prop where
  changes : Relation.ReflTransGen Change (Document.ofChars text.toList).root
    (Document.ofChars text'.toList).root
  complete : (Document.ofChars text'.toList).trailing = false

theorem respects_all {t t' : Tree} (h : Relation.ReflTransGen Change t t') (hr : codec.read t = .ok c) :
    codec.read t' = .ok c := by
  induction h with
  | refl => exact hr
  | tail _ h ih => exact respects _ _ _ h ih

/-- A text that is put differently is read as the same configuration. -/
theorem ofText_rephrased (h : ofText text = .ok c) (hr : Rephrased text text') : ofText text' = .ok c := by
  obtain ⟨x, hx, hc⟩ := read_of_ofText h
  rw [ofText_of_read (respects_all hr.changes hx) hr.complete]
  exact hc

/-- A text that says more than it has to. -/
def wordy : String := "\x7b\"proxy\": \x7b\"url\": \"http://p:1\", \"kind\": \"http\"\x7d,
  \"client\": \x7b\"product\": \"tidal\", \"version\": \"9\"\x7d, \"storage\": \x7b\x7d\x7d"

/-- It says so in fewer words, and something to nobody. -/
def terse : String := "\x7b\"client\": [\"9\"],
  \"proxy\": \x7b\"kind\": \"http\", \"url\": \"http://p:1\"\x7d, \"note\": [1e999]\x7d"

/-- What both say. -/
def spoken : Config := { standard with client.version := "9", proxy := .ofUrl "http://p:1" }

/-- What the longer text holds. -/
def wordyTree : Tree := .ofMembers
  [("proxy", .ofMembers [("url", .text "http://p:1"), ("kind", .text "http")]),
   ("client", .ofMembers [("product", .text "tidal"), ("version", .text "9")]), ("storage", .ofMembers [])]

/-- What the shorter text holds. -/
def terseTree : Tree := .ofMembers
  [("client", .ofList [.text "9"]),
   ("proxy", .ofMembers [("kind", .text "http"), ("url", .text "http://p:1")]),
   ("note", .ofList [.number ⟨false, ['1'], [], some ([], ['9', '9', '9'])⟩])]

theorem root_wordy : (Document.ofChars wordy.toList).root = wordyTree := by
  decide +kernel

theorem root_terse : (Document.ofChars terse.toList).root = terseTree := by
  decide +kernel

theorem changes_wordy : Relation.ReflTransGen Change wordyTree terseTree := by
  let url : String × Tree := ("url", .text "http://p:1")
  let kind : String × Tree := ("kind", .text "http")
  let product : String × Tree := ("product", .text "tidal")
  let version : String × Tree := ("version", .text "9")
  have hproxy : Change wordyTree (.ofMembers [("proxy", .ofMembers [kind, url]),
      ("client", .ofMembers [product, version]), ("storage", .ofMembers [])]) := by
    refine @Record.Change.field _ fields inner standard [] _ fields[5] _ _ (List.getElem_mem _) ?_
    show Web.Proxy.Change 126 (.ofMembers [url, kind]) (.ofMembers [kind, url])
    exact .reorder (.swap ..)
  have hlisted : Record.Listed (Record.content [product, version]) Config.standard.client Client.fields
      [.text "9"] := by
    refine .given rfl (.cut fun f hf v hv => ?_)
    simp only [List.mem_cons, List.not_mem_nil, or_false] at hf
    rcases hf with rfl | rfl
    · cases hv
    · cases hv
      rfl
  have hclient : Change (.ofMembers [("proxy", .ofMembers [kind, url]),
        ("client", .ofMembers [product, version]), ("storage", .ofMembers [])])
      (.ofMembers [("proxy", .ofMembers [kind, url]), ("client", .ofList [.text "9"]),
        ("storage", .ofMembers [])]) := by
    refine @Record.Change.field _ fields inner standard [_] _ fields[0] _ _ (List.getElem_mem _) ?_
    show Client.Change (.ofMembers [product, version]) (.ofList [.text "9"])
    exact .list hlisted
  have hstorage : Change (.ofMembers [("proxy", .ofMembers [kind, url]), ("client", .ofList [.text "9"]),
        ("storage", .ofMembers [])])
      (.ofMembers [("proxy", .ofMembers [kind, url]), ("client", .ofList [.text "9"])]) :=
    @Record.Change.remove _ fields inner standard [_, _] [] fields[3] _ (List.getElem_mem _) rfl
  have hnote : Change (.ofMembers [("proxy", .ofMembers [kind, url]), ("client", .ofList [.text "9"])])
      (.ofMembers [("proxy", .ofMembers [kind, url]), ("client", .ofList [.text "9"]), ("note", .ofList
        [.number ⟨false, ['1'], [], some ([], ['9', '9', '9'])⟩])]) :=
    @Record.Change.insert _ fields inner standard [_, _] [] "note" _ (by decide) rfl
  exact .tail (.tail (.tail (.tail (.single hproxy) hclient) hstorage) hnote) (.reorder (.swap ..))

theorem rephrased_wordy : Rephrased wordy terse where
  changes := by
    rw [root_wordy, root_terse]
    exact changes_wordy
  complete := by decide +kernel

theorem ofText_wordy : ofText wordy = .ok spoken := by
  have hr : codec.read (Document.ofChars wordy.toList).root = .ok spoken := by
    rw [root_wordy]
    rfl
  rw [ofText_of_read hr (by decide +kernel), checked_of_sound (by decide +kernel)]

/-- Five changes lead from one text to the other, so both are read as the same configuration. -/
theorem ofText_terse : ofText wordy = .ok spoken ∧ Rephrased wordy terse ∧ ofText terse = .ok spoken :=
  ⟨ofText_wordy, rephrased_wordy, ofText_rephrased ofText_wordy rephrased_wordy⟩

/-! ## Where a member makes a difference -/

/-- An engine whose type is given as an object, with these members after the name. -/
def typeTree (ms : List (String × Tree)) : Tree :=
  .ofMembers [("engines", .ofList [.ofMembers [("engine_type", .ofMembers (("simulated", .null) :: ms))]])]

/-- No proxy, and these members of an object that stands in its place besides. -/
def noteTree (ms : List (String × Tree)) : Tree :=
  .ofMembers [("proxy", .ofMembers [("kind", .text "disabled"), ("note", .ofMembers ms)])]

/-- A text with an engine type as an object, and one with a second member in it. -/
def typeText : String := "\x7b\"engines\": [\x7b\"engine_type\": \x7b\"simulated\": null\x7d\x7d]\x7d"
def crowdedTypeText : String :=
  "\x7b\"engines\": [\x7b\"engine_type\": \x7b\"simulated\": null, \"x\": 1\x7d\x7d]\x7d"

/-- A text with an object in a proxy, and one with a member in it that is no text. -/
def noteText : String := "\x7b\"proxy\": \x7b\"kind\": \"disabled\", \"note\": \x7b\x7d\x7d\x7d"
def faultyNoteText : String :=
  "\x7b\"proxy\": \x7b\"kind\": \"disabled\", \"note\": \x7b\"x\": \"\\udc00\"\x7d\x7d\x7d"

/-- Nothing stands beside the name of an engine type, not even what nobody asks for; and what stands in a proxy
is kept, faults included. -/
theorem insertion_refused :
    ((Document.ofChars typeText.toList).root = typeTree [] ∧
      (Document.ofChars crowdedTypeText.toList).root = typeTree [("x", .natural 1)] ∧
      (ofText typeText).isOk = true ∧ ofText crowdedTypeText = .error (.malformed "expected value")) ∧
    (Document.ofChars noteText.toList).root = noteTree [] ∧
      (Document.ofChars faultyNoteText.toList).root = noteTree [("x", .string (.error .loneSurrogate))] ∧
      (ofText noteText).isOk = true ∧
      ofText faultyNoteText = .error (.malformed "lone leading surrogate in hex escape") := by
  have htype : (Document.ofChars typeText.toList).root = typeTree [] := by
    decide +kernel
  have htype' : (Document.ofChars crowdedTypeText.toList).root = typeTree [("x", .natural 1)] := by
    decide +kernel
  have hnote : (Document.ofChars noteText.toList).root = noteTree [] := by
    decide +kernel
  have hnote' : (Document.ofChars faultyNoteText.toList).root =
      noteTree [("x", .string (.error .loneSurrogate))] := by
    decide +kernel
  refine ⟨⟨htype, htype', ?_, ?_⟩, hnote, hnote', ?_, ?_⟩
  · have hr : codec.read (typeTree []) = .ok { standard with engines := [.ofKind .simulated] } := rfl
    rw [ofText_of_read (htype ▸ hr) (by decide +kernel), checked_of_sound (by decide +kernel)]
    rfl
  · have hr : codec.read (typeTree [("x", .natural 1)]) = .error (.malformed .expectedValue) := rfl
    exact ofText_of_fault (htype' ▸ hr)
  · have hr : codec.read (noteTree []) = .ok standard := rfl
    rw [ofText_of_read (hnote ▸ hr) (by decide +kernel), checked_of_sound (by decide +kernel)]
    rfl
  · have hr : codec.read (noteTree [("x", .string (.error .loneSurrogate))]) =
        .error (.malformed .loneSurrogate) := rfl
    exact ofText_of_fault (hnote' ▸ hr)

end Config

end Swarmkeeper
