import Swarmkeeper.Config.Basic
import Swarmkeeper.Proofs.Json.Codecs

/-!
# Configurations are read as they are written

The codec of every part keeps every value of that part, except that the floating-point limit of an engine is
left out. So a configuration that was read from some text is read again from the text that it is written as.
-/

namespace Swarmkeeper

open Swarmkeeper.Json Swarmkeeper.Json.Codec

/-! ## The parts -/

theorem Engine.Kind.keeps (k : Kind) : codec.Keeps k := keeps_enumeration (by cases k <;> rfl)

/-- An engine's settings are kept if they set no ratio. -/
theorem Engine.Settings.keeps (s : Settings) (hs : s.shareRatioLimit = none) : codec.Keeps s := by
  refine Record.keeps (by decide) ?_
  refine .of s.kind.keeps (.of (keeps_bool _) (.of (keeps_optional_word64 _)
    (.of (keeps_optional_word64 _) (.of (keeps_count _) (.of ?_ (.of (keeps_bool _) (.nil s)))))))
  rw [hs]
  exact keeps_none

theorem Config.Client.keeps (c : Client) : codec.Keeps c :=
  Record.keeps (by decide) (.of (keeps_text _) (.of (keeps_text _) (.of (keeps_text _) (.nil c))))

theorem Service.RetryPolicy.keeps (p : RetryPolicy) : codec.Keeps p :=
  Record.keeps (by decide) (.of (keeps_word64 _) (.of (keeps_word64 _) (.of (keeps_word32 _) (.nil p))))

theorem Config.Service.keeps (s : Service) : codec.Keeps s :=
  Record.keeps (by decide) (.of (keeps_text _) (.of (keeps_optional_path _)
    (.of (keeps_list fun _ _ => keeps_text _) (.of (keeps_word64 _) (.of (keeps_word32 _)
      (.of (keeps_word64 _) (.of (keeps_word64 _) (.of (keeps_word64 _) (.of s.retry.keeps (.nil s))))))))))

theorem Config.Storage.keeps (s : Storage) : codec.Keeps s :=
  Record.keeps (by decide) (.of (keeps_path _) (.of (keeps_list fun _ _ => keeps_path _) (.nil s)))

namespace Admission.Policy

theorem keeps_wholeSeconds {d : Duration} (h : d = .ofSeconds d.seconds) : wholeSeconds.Keeps d where
  plain := (keeps_word64 d.seconds).plain
  read := by
    show Duration.ofSeconds <$> word64.read (word64.write d.seconds) = .ok d
    rw [(keeps_word64 d.seconds).read]
    exact congrArg Except.ok h.symm

/-- A policy is kept if its list is read again after whole seconds. -/
theorem keeps (p : Policy) (h : p.refresh = .ofSeconds p.refresh.seconds) : codec.Keeps p :=
  Record.keeps (by decide) (.of (keeps_bool _) (.of (keeps_list fun _ _ => keeps_text _)
    (.of (keeps_list fun _ _ => keeps_text _) (.of (keeps_list fun _ _ => keeps_text _)
      (.of (keeps_list fun _ _ => keeps_text _) (.of (keeps_bool _) (.of (keeps_optional_text _)
        (.of (keeps_wholeSeconds h) (.nil p)))))))))

/-- No policy that is read has any other time. -/
theorem refresh_of_read {t : Tree} {p : Policy} (h : codec.read t = .ok p) :
    p.refresh = .ofSeconds p.refresh.seconds := by
  refine Record.holds_of_read (P := fun p => p.refresh = .ofSeconds p.refresh.seconds) ?_ rfl h
  intro f hf
  simp only [fields, List.mem_cons, List.not_mem_nil, or_false] at hf
  rcases hf with rfl | rfl | rfl | rfl | rfl | rfl | rfl | rfl
  case inr.inr.inr.inr.inr.inr.inr =>
    refine RecordField.preserves_of fun v d _ hd _ => ?_
    obtain ⟨x, -, hx⟩ := exists_of_bind hd
    cases hx
    rfl
  all_goals exact RecordField.preserves_of fun _ _ _ _ hp => hp

end Admission.Policy

/-! ## The proxy -/

namespace Web.Proxy

theorem carries_server (s : ProxyServer) :
    Record.Carries s ProxyServer.fields ⟨"", none, none⟩ s :=
  .of (keeps_text _) (.of (keeps_optional_text _) (.of (keeps_optional_text _) (.nil s)))

/-- The members of a server after the one that names the form. -/
def serverMembers (s : ProxyServer) : Members := Record.members ProxyServer.fields s

theorem write_http (s : ProxyServer) :
    write (.http s) = .object (.member (.ok "kind") (.text "http") (serverMembers s)) := rfl

theorem readKind_http (depth : Nat) (s : ProxyServer) :
    readKind depth none (.member (.ok "kind") (.text "http") (serverMembers s)) = .ok .http := by
  obtain ⟨url, username, password⟩ := s
  cases username <;> cases password <;> rfl

theorem keeps (level : Nat) (p : Proxy) : (codec level).Keeps p := by
  cases p with
  | disabled => exact ⟨⟨⟨_, rfl⟩, ⟨_, rfl⟩, trivial⟩, rfl⟩
  | http s =>
      have hserver : Record.readMembers ProxyServer.fields [] (serverMembers s) ⟨"", none, none⟩ = .ok s :=
        Record.readMembers_members (carries_server s) (by decide) (fun _ => id) (by decide)
          fun _ _ => List.not_mem_nil
      constructor
      · exact ⟨⟨_, rfl⟩, ⟨_, rfl⟩, (carries_server s).plain⟩
      · show read (128 - level) (write (.http s)) = .ok (.http s)
        -- the member that names the form is none of the server's, so that it is skipped
        have hskip : Record.readMembers ProxyServer.fields []
            (.member (.ok "kind") (.text "http") (serverMembers s)) ⟨"", none, none⟩ = .ok s := hserver
        rw [write_http, read, readKind_http]
        show (do
          let server ← Record.readMembers ProxyServer.fields []
            (.member (.ok "kind") (.text "http") (serverMembers s)) ⟨"", none, none⟩
          if hasKey "url" (.member (.ok "kind") (.text "http") (serverMembers s)) then
            Except.ok (http server) else _) = _
        rw [hskip]
        rfl

end Web.Proxy

/-! ## The whole -/

namespace Config

variable {c : Config}

theorem keeps (h : ∀ s ∈ c.engines, s.shareRatioLimit = none)
    (hf : c.peerFilter.refresh = .ofSeconds c.peerFilter.refresh.seconds) : codec.Keeps c :=
  Record.keeps (by decide) (.of c.client.keeps (.of (keeps_list fun s hs => s.keeps (h s hs))
    (.of c.service.keeps (.of c.storage.keeps (.of (c.peerFilter.keeps hf) (.of (c.proxy.keeps 2) (.nil c)))))))

theorem refresh_of_read {t : Tree} (h : codec.read t = .ok c) :
    c.peerFilter.refresh = .ofSeconds c.peerFilter.refresh.seconds := by
  refine Record.holds_of_read
    (P := fun c => c.peerFilter.refresh = .ofSeconds c.peerFilter.refresh.seconds) ?_ rfl h
  intro f hf
  simp only [fields, List.mem_cons, List.not_mem_nil, or_false] at hf
  rcases hf with rfl | rfl | rfl | rfl | rfl | rfl
  case inr.inr.inr.inr.inl =>
    exact RecordField.preserves_of fun _ _ _ hp _ => Admission.Policy.refresh_of_read hp
  all_goals exact RecordField.preserves_of fun _ _ _ _ hc => hc

/-- A configuration that was accepted was read from the tree of the text, and passes the checks. -/
theorem read_of_ofText {text : String} (h : ofText text = .ok c) :
    ∃ x, codec.read (Document.ofChars text.toList).root = .ok x ∧ x.checked = .ok c := by
  unfold ofText at h
  split at h
  · cases h
  · rename_i x hx
    obtain ⟨y, hy, hend⟩ := exists_of_bind hx
    split at hend
    · cases hend
    · cases hend
      exact ⟨_, hy, h⟩

theorem ofText_of_read {text : String} (hr : codec.read (Document.ofChars text.toList).root = .ok c)
    (hend : (Document.ofChars text.toList).trailing = false) : ofText text = c.checked := by
  have hread : codec.ofText text = .ok c := by
    rw [Codec.ofText, Codec.ofChars]
    simp only [hr, bind, Except.bind, hend]
    rfl
  rw [ofText, hread]

theorem ofText_of_fault {text : String} {f : ReadFault}
    (hr : codec.read (Document.ofChars text.toList).root = .error f) : ofText text = .error (.malformed f.message) := by
  have hread : codec.ofText text = .error f := by
    rw [Codec.ofText, Codec.ofChars]
    simp only [hr, bind, Except.bind]
  rw [ofText, hread]

theorem checked_of_fault? {f : Fault} (h : c.fault? = some f) : c.checked = .error f := by
  rw [checked, h]

theorem checked_eq_ok_iff {x : Config} : x.checked = .ok c ↔ x.fault? = none ∧ x = c := by
  rw [checked]
  split <;> simp_all

theorem checked_of_sound (h : c.fault? = none) : c.checked = .ok c := checked_eq_ok_iff.mpr ⟨h, rfl⟩

/-- A configuration that was read is read again from the text that it is written as. -/
theorem ofText_toText {text : String} (h : ofText text = .ok c)
    (hratio : ∀ s ∈ c.engines, s.shareRatioLimit = none) : ofText (codec.toText c) = .ok c := by
  obtain ⟨x, hx, hc⟩ := read_of_ofText h
  obtain ⟨-, rfl⟩ := checked_eq_ok_iff.mp hc
  rw [ofText, (keeps hratio (refresh_of_read hx)).ofText]
  exact hc

/-- A configuration with a character that is escaped, the largest limit there is, and a proxy. -/
def busy : Config := { standard with
  client := ⟨"1.0", "TD", "é\n"⟩
  engines := [{ Engine.Settings.ofKind .simulated with downloadLimit := some 18446744073709551615 }]
  proxy := .http ⟨"http://p:1", none, some "x"⟩ }

/-- It is given as a list, with most of its parts left out. -/
def busyText : String := "[[\"1.0\", \"TD\", \"\\u00e9\\n\"], [[\"simulated\", true, 18446744073709551615]],
    [], [], [], [\"http\", \"http://p:1\", null, \"x\"]]"

theorem root_busyText : (Document.ofChars busyText.toList).root = .ofList
    [.ofList [.text "1.0", .text "TD", .text "é\n"],
      .ofList [.ofList [.text "simulated", .bool true, .natural 18446744073709551615]],
      .ofList [], .ofList [], .ofList [],
      .ofList [.text "http", .text "http://p:1", .null, .text "x"]] := by
  decide +kernel

theorem ofText_busy : ofText busyText = .ok busy := by
  have hr : codec.read (Document.ofChars busyText.toList).root = .ok busy := by
    rw [root_busyText]
    rfl
  rw [ofText_of_read hr (by decide +kernel), checked_of_sound (by decide +kernel)]

/-- It is written as an object with all of its parts. -/
theorem ofText_toText_busy : (∃ text, ofText text = .ok busy) ∧
    (∀ s ∈ busy.engines, s.shareRatioLimit = none) ∧ ofText (codec.toText busy) = .ok busy := by
  have hratio : ∀ s ∈ busy.engines, s.shareRatioLimit = none := by simp [busy, Engine.Settings.ofKind]
  exact ⟨⟨_, ofText_busy⟩, hratio, ofText_toText ofText_busy hratio⟩

end Config

end Swarmkeeper
