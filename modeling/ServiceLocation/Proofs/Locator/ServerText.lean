import ServiceLocation.Locator.Basic
import ServiceLocation.Proofs.Address.Endpoint

/-!
**A locator reads its servers from texts.**

* `Locator.readServer_eq_ok_iff`, `Locator.readServer_eq_error_iff`: a text is read as the server that it
  writes, and any other is invalid;
* `Locator.readServer_of_differInBlanks`: blanks around a text make no difference, in errors either;
* `Locator.readServer_exact`: **servers are read back from their texts, and what a text is read as does
  not hang on the order of the attempts.**
-/

namespace ServiceLocation.Locator

open ServiceLocation.Address ServiceLocation.Address.Endpoint ServiceLocation.Text

variable {text text' : String}

theorem readServer_eq_ok_iff {server : Endpoint} :
    readServer text = .ok server ↔ Endpoint.ofText? text = some server := by
  unfold readServer
  split
  · rename_i found
    rw [found, Except.ok.injEq, Option.some.injEq]
  · rename_i nothing
    rw [nothing]
    exact ⟨nofun, nofun⟩

theorem readServer_eq_error_iff {error : LocationError} :
    readServer text = .error error ↔ Endpoint.ofText? text = none ∧
      error = .invalidInput (.invalidServer (trimmed text)) := by
  unfold readServer
  split
  · rename_i found
    rw [found]
    exact ⟨nofun, fun ⟨nothing, _⟩ => nomatch nothing⟩
  · rename_i nothing
    rw [nothing, Except.error.injEq]
    exact ⟨fun is => ⟨rfl, is.symm⟩, fun ⟨_, is⟩ => is.symm⟩

/-- Blanks around a text make no difference, whether it is read or refused. -/
theorem readServer_of_differInBlanks (differ : DifferInBlanks text.toList text'.toList) :
    readServer text = readServer text' := by
  have same := trim_eq_of_differInBlanks differ
  rw [readServer, readServer, Endpoint.ofText?, Endpoint.ofText?, trimmed, trimmed, same]

/-- **Servers are read back from their texts**, and blanks around a text make no difference. **No text is
both an address alone and an address with a port**, so each is read as what it writes: an address alone
gets the port of the domain name system, also one that ends in a number, and a text that writes neither
is invalid. That port is read exactly if none is written, or this one. -/
theorem readServer_exact :
    (∀ server : Endpoint, readServer server.text = .ok server) ∧
    (∀ text text' : String, DifferInBlanks text.toList text'.toList →
      readServer text = readServer text') ∧
    (∀ text portText server server', Bare text server → ¬Ported text portText server') ∧
    ∀ text : String,
      (∀ server, readServer text = .ok server ↔ Bare (trim text.toList) server ∨
        ∃ portText, Ported (trim text.toList) portText server) ∧
      (∀ address, Ipv6.ofText? (trim text.toList) = some address →
        readServer text = .ok (.v6 address dnsPort 0)) ∧
      (∀ server, readServer text = .ok server →
        (server.port = 53 ↔ Bare (trim text.toList) server ∨
          ∃ portText, Ported (trim text.toList) portText server ∧ number? 10 portText = some 53)) ∧
      ((∀ server portText, ¬Bare (trim text.toList) server ∧
          ¬Ported (trim text.toList) portText server) →
        readServer text = .error (.invalidInput (.invalidServer (trimmed text)))) := by
  have reads : ∀ (text : String) server, readServer text = .ok server ↔
      Bare (trim text.toList) server ∨ ∃ portText, Ported (trim text.toList) portText server :=
    fun text server => readServer_eq_ok_iff.trans ofText?_eq_some_iff
  refine ⟨fun server => readServer_eq_ok_iff.2 server.ofText?_text,
    fun text text' => readServer_of_differInBlanks,
    fun text portText server server' bare => bare.not_ported, fun text => ⟨reads text, ?_, ?_, ?_⟩⟩
  · intro address found
    exact (reads text _).2 (.inl (.v6 found))
  · intro server read
    exact port_eq_dnsPort_iff (readServer_eq_ok_iff.1 read)
  · intro neither
    cases read : readServer text with
    | ok server =>
      rcases (reads text server).1 read with bare | ⟨portText, ported⟩
      · exact absurd bare (neither server []).1
      · exact absurd ported (neither server portText).2
    | error error => rw [(readServer_eq_error_iff.1 read).2]

end ServiceLocation.Locator
