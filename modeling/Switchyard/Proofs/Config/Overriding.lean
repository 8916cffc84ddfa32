/-
  Switchyard.Proofs.Config.Overriding
  ───────────────────────────────────
  A configuration file under the flags of the command line.  The file has to be
  valid by itself before the flags are applied to it, and what they make of it has
  to be valid again.  So a flag does not help a file that breaks the very rule that
  the flag would mend.

      Violation.field — the first word of a message
      Reports         — the lines that tell of violations
      Config.Settles  — an outcome is the one that a configuration comes to

  Main statements:

      reported_inj       — what is reported tells which rules are broken
      configure_eq       — all outcomes of a file with flags
      flags_settle_iff   — when the outcome is that of what the flags make of it
-/
import Switchyard.CommandLine
import Switchyard.Proofs.Text.Cuts

namespace Switchyard

/-! ## §1. What a message tells. -/

namespace Violation

/-- The field that a message names first. -/
def field : Violation → String
  | .noWorkers => "workers.count"
  | .noQueueCapacity => "workers.queue_capacity"
  | .noPortAttempts => "listener.port_retry_attempts"
  | .tlsPortCollision _ => "listener.tls.port"
  | .missingTlsPath .certificate => "listener.tls.cert_path"
  | .missingTlsPath .key => "listener.tls.key_path"
  | .invalidMetricsAddress _ => "observability.metrics_address"
  | .missingApiKey => "admin.api_key"

theorem space_not_mem_field (v : Violation) : ' ' ∉ v.field.toList := by
  rcases v with _ | _ | _ | p | (_ | _) | a | _
  case tlsPortCollision => show ' ' ∉ "listener.tls.port".toList; decide
  case invalidMetricsAddress => show ' ' ∉ "observability.metrics_address".toList; decide
  all_goals decide

/-- **Every message begins with its field.** -/
theorem exists_message_eq (v : Violation) :
    ∃ rest, v.message.toList = v.field.toList ++ ' ' :: rest := by
  cases v with
  | noWorkers => exact ⟨"must be at least 1".toList, by decide +kernel⟩
  | noQueueCapacity => exact ⟨"must be at least 1".toList, by decide +kernel⟩
  | noPortAttempts => exact ⟨"must be at least 1".toList, by decide +kernel⟩
  | tlsPortCollision port =>
      refine ⟨(toString port).toList ++ " is already used by the plain listener".toList, ?_⟩
      show ("listener.tls.port " ++ toString port ++ _).toList = "listener.tls.port".toList ++ _
      rw [String.toList_append, String.toList_append]
      rfl
  | missingTlsPath file => cases file <;> exact ⟨"must not be empty".toList, by decide +kernel⟩
  | invalidMetricsAddress address =>
      refine ⟨'`' :: (address.toList ++ "` is not a socket address".toList), ?_⟩
      show ("observability.metrics_address `" ++ address ++ _).toList
        = "observability.metrics_address".toList ++ _
      rw [String.toList_append, String.toList_append]
      rfl
  | missingApiKey => exact ⟨"must be set when admin routes are enabled".toList, by decide +kernel⟩

/-- The first word of a text that begins with a message is the field. -/
theorem cutFirst?_message (v : Violation) (more : List Char) :
    ∃ rest, Text.cutFirst? ' ' (v.message.toList ++ more) = some (v.field.toList, rest) := by
  obtain ⟨rest, hmessage⟩ := v.exists_message_eq
  refine ⟨rest ++ more, ?_⟩
  rw [hmessage, List.append_assoc, List.cons_append]
  exact Text.cutFirst?_append v.space_not_mem_field _

end Violation

namespace Config

/-- Two configurations that are the same but for what flags override. -/
def SameButFlags (c c' : Config) : Prop :=
  c.listener.tls = c'.listener.tls ∧ c.observability = c'.observability

variable {c c' : Config} {v w : Violation}

theorem mem_violates_iff {p : Prop} [Decidable p] : v ∈ violates p w ↔ p ∧ v = w := by
  unfold violates
  split <;> simp_all

/-- A port in a message is the one of the TLS listener. -/
theorem port_of_mem_violations {port : UInt16} (h : .tlsPortCollision port ∈ c.violations) :
    ∃ tls, c.listener.tls = some tls ∧ tls.port = port := by
  cases htls : c.listener.tls with
  | none => simp [violations, mem_violates_iff, htls] at h
  | some tls =>
      simp only [violations, tlsViolations, mem_violates_iff, htls, List.mem_append,
        Violation.tlsPortCollision.injEq, reduceCtorEq, and_false, or_false, false_or] at h
      exact ⟨tls, rfl, h.2.symm⟩

/-- An address in a message is the one of the metrics. -/
theorem address_of_mem_violations {address : String}
    (h : .invalidMetricsAddress address ∈ c.violations) :
    address = c.observability.metricsAddress := by
  cases htls : c.listener.tls <;>
    simp [violations, tlsViolations, mem_violates_iff, htls] at h <;> exact h.2

/-- So a field tells the violation. -/
theorem eq_of_field_eq (hsame : c.SameButFlags c') (hv : v ∈ c.violations)
    (hw : w ∈ c'.violations) (h : v.field = w.field) : v = w := by
  -- Only two kinds of messages tell more than the field.
  rcases v with _ | _ | _ | p | (_ | _) | a | _ <;>
    rcases w with _ | _ | _ | q | (_ | _) | b | _ <;> simp [Violation.field] at h ⊢
  · obtain ⟨tls, htls, rfl⟩ := port_of_mem_violations hv
    obtain ⟨tls', htls', rfl⟩ := port_of_mem_violations hw
    rw [hsame.1, htls'] at htls
    exact congrArg TlsConfig.port (Option.some.inj htls).symm
  · rw [address_of_mem_violations hv, address_of_mem_violations hw, hsame.2]

end Config

/-! ## §2. What a report tells. -/

/-- The messages of some violations, with a comma behind each. -/
def listed (vs : List Violation) : List Char :=
  vs.flatMap fun v => v.message.toList ++ [',', ' ']

theorem listed_cons (v : Violation) (vs : List Violation) :
    listed (v :: vs) = v.message.toList ++ ([',', ' '] ++ listed vs) := by
  simp [listed]

/-- Joined with commas, the messages lack only the last of them. -/
theorem intercalate_messages (v : Violation) (vs : List Violation) :
    (", ".intercalate ((v :: vs).map Violation.message)).toList ++ [',', ' ']
      = listed (v :: vs) := by
  rw [String.toList_intercalate]
  induction vs generalizing v with
  | nil => simp [listed]
  | cons w vs ih =>
      rw [listed_cons, ← ih w, List.map_cons, List.map_cons, List.map_cons, List.map_cons,
        List.intercalate_cons_cons]
      simp only [List.append_assoc]
      rfl

/-- The messages tell the violations: the first word is the field of the first one,
the field tells which it is, and the others follow it. -/
theorem listed_inj {c c' : Config} (hsame : c.SameButFlags c') {vs ws : List Violation}
    (hvs : ∀ v ∈ vs, v ∈ c.violations) (hws : ∀ w ∈ ws, w ∈ c'.violations)
    (h : listed vs = listed ws) : vs = ws := by
  induction vs generalizing ws with
  | nil =>
      cases ws with
      | nil => rfl
      | cons w ws => simp [listed] at h
  | cons v vs ih =>
      cases ws with
      | nil => simp [listed] at h
      | cons w ws =>
          rw [listed_cons, listed_cons] at h
          obtain ⟨rest, hv⟩ := v.cutFirst?_message ([',', ' '] ++ listed vs)
          obtain ⟨rest', hw⟩ := w.cutFirst?_message ([',', ' '] ++ listed ws)
          -- Both texts are one, so they have the same first word.
          have hfield : v.field = w.field := by
            rw [h, hw] at hv
            exact String.toList_injective (Prod.mk.inj (Option.some.inj hv)).1.symm
          obtain rfl : v = w := Config.eq_of_field_eq hsame (hvs v (by simp)) (hws w (by simp)) hfield
          have hrest : listed vs = listed ws :=
            List.append_cancel_left (List.append_cancel_left h)
          rw [ih (fun u hu => hvs u (by simp [hu])) (fun u hu => hws u (by simp [hu])) hrest]

theorem report_toList (vs : List Violation) :
    (ConfigError.invalid vs).message.toList
      = "validation".toList
        ++ ' ' :: ("failed: ".toList ++ (", ".intercalate (vs.map Violation.message)).toList) := by
  have hwords : "validation failed: ".toList = "validation".toList ++ ' ' :: "failed: ".toList := by
    decide +kernel
  show ("validation failed: " ++ ", ".intercalate (vs.map Violation.message)).toList = _
  rw [String.toList_append, hwords, List.append_assoc, List.cons_append]

/-- **A report tells which rules are broken**, if it is known what the flags leave
alone. -/
theorem reported_inj {c c' : Config} (hsame : c.SameButFlags c') (hinvalid : ¬ c.IsValid)
    (hinvalid' : ¬ c'.IsValid)
    (h : (ConfigError.invalid c.violations).message = (ConfigError.invalid c'.violations).message) :
    c.violations = c'.violations := by
  -- There is a first message on both sides, so a comma can be put behind the last.
  obtain ⟨v, vs, hvs⟩ := List.exists_cons_of_ne_nil hinvalid
  obtain ⟨w, ws, hws⟩ := List.exists_cons_of_ne_nil hinvalid'
  refine listed_inj hsame (fun _ => id) (fun _ => id) ?_
  have htext := congrArg String.toList h
  rw [report_toList, report_toList] at htext
  have hmessages := List.append_cancel_left (List.cons.inj (List.append_cancel_left htext)).2
  rw [hvs, hws] at hmessages
  rw [hvs, hws, ← intercalate_messages, ← intercalate_messages, hmessages]

/-- No message of a violation is such a report: it does not begin with a field. -/
theorem message_ne_report (v : Violation) (vs : List Violation) :
    v.message ≠ (ConfigError.invalid vs).message := by
  intro h
  obtain ⟨rest, hv⟩ := v.cutFirst?_message []
  rw [List.append_nil, h, report_toList, Text.cutFirst?_append (by decide)] at hv
  have hfield := String.toList_injective (Prod.mk.inj (Option.some.inj hv)).1
  -- The first word of a report is no field.
  rcases v with _ | _ | _ | _ | (_ | _) | _ | _ <;> simp [Violation.field] at hfield

theorem messages_ne_report (vs ws : List Violation) :
    vs.map Violation.message ≠ [(ConfigError.invalid ws).message] := by
  intro h
  obtain ⟨v, -, hv⟩ := List.mem_map.mp (h ▸ List.mem_singleton_self _)
  exact message_ne_report v ws hv

/-! ## §3. Outcomes. -/

/-- What is checked after the flags is not reported like a file. -/
theorem Config.checked_ne_report (c : Config) (vs : List Violation) :
    (if c.IsValid then .ok c else .error (c.violations.map Violation.message) :
      Except (List String) Config) ≠ .error [(ConfigError.invalid vs).message] := by
  intro h
  split at h
  · cases h
  · exact messages_ne_report _ _ (Except.error.inj h)

/-- The lines tell of some violations: each in one of its own, or all in one. -/
def Reports (lines : List String) (vs : List Violation) : Prop :=
  lines = vs.map Violation.message ∨ lines = [(ConfigError.invalid vs).message]

/-- The outcome is the one that a configuration comes to: it is served with if it is
valid, and else its violations are reported. -/
inductive Config.Settles (c : Config) : Except (List String) Config → Prop where
  | served (valid : c.IsValid) : Settles c (.ok c)
  | refused {lines : List String} (invalid : ¬ c.IsValid) (reports : Reports lines c.violations) :
      Settles c (.error lines)

namespace CommandLine.Options

variable {o : Options} {read : String → Except FileError String} {path text : String}
  {c c' : Config}

theorem sameButFlags_override (o : Options) (c : Config) : c.SameButFlags (o.override c) :=
  ⟨rfl, rfl⟩

theorem sameButFlags_of_override_eq (h : o.override c' = o.override c) : c'.SameButFlags c := by
  have htls : (o.override c').listener.tls = (o.override c).listener.tls := by rw [h]
  have hmetrics : (o.override c').observability = (o.override c).observability := by rw [h]
  exact ⟨htls, hmetrics⟩

/-- What a file comes to under flags: first it has to be valid by itself. -/
theorem configure_eq (hfile : o.config? = some path) (hread : read path = .ok text)
    (hdecode : Config.decode? text = some c) :
    o.configure read
      = if c.IsValid then
          if (o.override c).IsValid then .ok (o.override c)
          else .error ((o.override c).violations.map Violation.message)
        else .error [(ConfigError.invalid c.violations).message] := by
  have hparse : Config.ofFile path (read path)
      = if c.IsValid then .ok c else .error (.invalid c.violations) := by
    rw [hread, Config.ofFile, Config.parse, hdecode]
  unfold configure
  rw [hfile]
  show ((Config.ofFile path (read path)).mapError fun e => [e.message]) >>= _ = _
  rw [hparse]
  by_cases hvalid : c.IsValid
  · rw [if_pos hvalid, if_pos hvalid]
    rfl
  · rw [if_neg hvalid, if_neg hvalid]
    rfl

/-- Where the configuration is refused, the program ends with what is reported. -/
theorem run_of_refused {arguments : List String} {fs : FileSystem} {lines : List String}
    (hparse : parse arguments = .ok o) (hrefused : o.configure fs.readText = .error lines)
    (host : Host) : run arguments fs host = .failure lines := by
  have hlaunch : launch arguments fs host = .error (.failure lines) := by
    unfold launch
    rw [hparse]
    show ((o.configure fs.readText).mapError _ >>= _) = _
    rw [hrefused]
    rfl
  rw [run, hlaunch]

/-- **When the flags settle the outcome.**  Let a file spell a configuration, and let
flags be given.  The server gets what the flags make of it if that is valid, and each
rule that it breaks is reported otherwise; but first the file has to be valid by
itself, and if it is not, all that it breaks is reported, whatever the flags.  So the
outcome is the one of what the flags make of the file exactly if the file is valid,
or breaks the same rules with the flags as without.  And files that come to the same
under the flags have the same outcome exactly if they break the same rules by
themselves. -/
theorem flags_settle_iff (hfile : o.config? = some path) (hread : read path = .ok text)
    (hdecode : Config.decode? text = some c) :
    o.configure read
        = (if c.IsValid then
            if (o.override c).IsValid then .ok (o.override c)
            else .error ((o.override c).violations.map Violation.message)
          else .error [(ConfigError.invalid c.violations).message])
      ∧ ((o.override c).Settles (o.configure read)
        ↔ c.IsValid ∨ c.violations = (o.override c).violations)
      ∧ ∀ read' text' c', read' path = .ok text' → Config.decode? text' = some c' →
          o.override c' = o.override c →
          (o.configure read' = o.configure read ↔ c'.violations = c.violations) := by
  have heq := configure_eq hfile hread hdecode
  refine ⟨heq, ?_, ?_⟩
  · rw [heq]
    by_cases hvalid : c.IsValid
    · rw [if_pos hvalid]
      refine iff_of_true ?_ (.inl hvalid)
      by_cases hover : (o.override c).IsValid
      · rw [if_pos hover]
        exact .served hover
      · rw [if_neg hover]
        exact .refused hover (.inl rfl)
    · -- All that is reported is what the file breaks, and the report tells what it is.
      rw [if_neg hvalid, or_iff_right hvalid]
      constructor
      · rintro (- | ⟨hover, happart | hjoined⟩)
        · exact absurd happart.symm (messages_ne_report _ _)
        · exact reported_inj (o.sameButFlags_override c) hvalid hover (List.cons.inj hjoined).1
      · intro hsame
        have hover : ¬ (o.override c).IsValid := fun hover => hvalid (hsame.trans hover)
        exact .refused hover (.inr (by rw [hsame]))
  · intro read' text' c' hread' hdecode' hoverride
    rw [heq, configure_eq hfile hread' hdecode', hoverride]
    -- The file that is valid is not refused by the other's report.
    by_cases hvalid : c.IsValid <;> by_cases hvalid' : c'.IsValid
    · rw [if_pos hvalid, if_pos hvalid']
      exact iff_of_true rfl (hvalid'.trans hvalid.symm)
    · rw [if_pos hvalid, if_neg hvalid']
      refine iff_of_false (Ne.symm (Config.checked_ne_report _ _)) fun hsame => ?_
      exact hvalid' (hsame.trans hvalid)
    · rw [if_neg hvalid, if_pos hvalid']
      refine iff_of_false (Config.checked_ne_report _ _) fun hsame => ?_
      exact hvalid (hsame.symm.trans hvalid')
    · rw [if_neg hvalid, if_neg hvalid']
      constructor
      · intro h
        exact reported_inj (sameButFlags_of_override_eq hoverride) hvalid' hvalid
          (List.cons.inj (Except.error.inj h)).1
      · intro h
        rw [h]

/-- A file whose TLS listener has the port 8443, and its plain one another. -/
def twoPorts (plain : String) : String :=
  "[listener]\nport = " ++ plain
    ++ "\n[listener.tls]\nport = 8443\ncert_path = \"c.pem\"\nkey_path = \"k.pem\"\n"

/-- What it spells. -/
def twoPortsConfig (plain : UInt16) : Config :=
  { listener := { port := plain, tls := some ⟨8443, "c.pem", "k.pem"⟩ } }

/-- The flag takes the port of the TLS listener, and so the valid file is refused;
which plain port stands in it makes no difference. -/
theorem port_flag_refused :
    let o : Options := { config? := some "server.toml", port? := some 8443 }
    Config.decode? (twoPorts "80") = some (twoPortsConfig 80)
      ∧ Config.decode? (twoPorts "81") = some (twoPortsConfig 81)
      ∧ o.override (twoPortsConfig 81) = o.override (twoPortsConfig 80)
      ∧ o.configure (fun _ => .ok (twoPorts "80"))
        = .error ["listener.tls.port 8443 is already used by the plain listener"]
      ∧ (o.override (twoPortsConfig 80)).Settles (o.configure fun _ => .ok (twoPorts "80"))
      ∧ o.configure (fun _ => .ok (twoPorts "81")) = o.configure fun _ => .ok (twoPorts "80") := by
  intro o
  have hdecode : Config.decode? (twoPorts "80") = some (twoPortsConfig 80) := by
    decide +kernel
  have hdecode' : Config.decode? (twoPorts "81") = some (twoPortsConfig 81) := by
    decide +kernel
  have hvalid : (twoPortsConfig 80).IsValid := by
    decide +kernel
  have hvalid' : (twoPortsConfig 81).IsValid := by
    decide +kernel
  have hrefused : ¬ (o.override (twoPortsConfig 80)).IsValid := by
    decide +kernel
  have hoverride : o.override (twoPortsConfig 81) = o.override (twoPortsConfig 80) := rfl
  have hsettle := @flags_settle_iff o (fun _ => .ok (twoPorts "80")) "server.toml" (twoPorts "80")
    (twoPortsConfig 80) rfl rfl hdecode
  -- The two files become one configuration once the flag is applied.
  have hothers := hsettle.2.2 (fun _ => .ok (twoPorts "81")) (twoPorts "81") (twoPortsConfig 81)
    rfl hdecode' hoverride
  have hreport : (o.override (twoPortsConfig 80)).violations.map Violation.message
      = ["listener.tls.port 8443 is already used by the plain listener"] := by
    decide +kernel
  refine ⟨hdecode, hdecode', hoverride, ?_, hsettle.2.1.mpr (.inl hvalid),
    hothers.mpr (hvalid'.trans hvalid.symm)⟩
  rw [hsettle.1, if_pos hvalid, if_neg hrefused, hreport]

/-- A file that asks for no workers. -/
def noWorkers : String := "[listener]\nhost = \"127.0.0.1\"\n[workers]\ncount = 0\n"

/-- What it spells. -/
def noWorkersConfig : Config :=
  { listener := { host := "127.0.0.1" }, workers := { count := .exactly 0 } }

/-- **A flag does not mend a file.**  Two workers are asked for by a flag, and with it
the configuration would be valid, but the program ends with a complaint about the
file. -/
theorem mended_file_refused :
    let o : Options := { config? := some "s.toml", port? := some 0, workers? := some 2 }
    let files := FileSystem.empty.addFile "s.toml" (Utf8.encode noWorkers)
    parse ["-c", "s.toml", "-p", "0", "-w", "2"] = .ok o
      ∧ files.readText "s.toml" = .ok noWorkers
      ∧ Config.decode? noWorkers = some noWorkersConfig
      ∧ (o.override noWorkersConfig).IsValid
      ∧ ∀ host, run ["-c", "s.toml", "-p", "0", "-w", "2"] files host
        = .failure ["validation failed: workers.count must be at least 1"] := by
  intro o files
  have hparse : parse ["-c", "s.toml", "-p", "0", "-w", "2"] = .ok o := by
    decide +kernel
  have hread : files.readText "s.toml" = .ok noWorkers := by
    decide +kernel
  have hdecode : Config.decode? noWorkers = some noWorkersConfig := by
    decide +kernel
  have hinvalid : ¬ noWorkersConfig.IsValid := by
    decide +kernel
  have hmended : (o.override noWorkersConfig).IsValid := by
    decide +kernel
  have hreport : (ConfigError.invalid noWorkersConfig.violations).message
      = "validation failed: workers.count must be at least 1" := by
    decide +kernel
  -- The file is judged before the flags are looked at.
  have hrefused : o.configure files.readText
      = .error ["validation failed: workers.count must be at least 1"] := by
    rw [@configure_eq o files.readText "s.toml" noWorkers noWorkersConfig rfl hread hdecode,
      if_neg hinvalid, hreport]
  exact ⟨hparse, hread, hdecode, hmended, run_of_refused hparse hrefused⟩

end CommandLine.Options

end Switchyard
