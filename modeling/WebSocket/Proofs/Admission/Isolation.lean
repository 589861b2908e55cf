import WebSocket.Proofs.Admission.Entries

/-
Clients do not disturb each other.  As long as the limit on all connections does not refuse a
client, its answers and its entry are those that it would have alone
(`Controller.Regular.alone_touches`).
So a client cannot tell two histories apart that touch it in the same way
(`Controller.isolated_of_touches_eq`).
-/
namespace WebSocket
namespace Admission
namespace Controller

variable {limits : Limits} {c : Controller}

/-- A client that is never refused by the limit on all connections is answered, and has the entry,
as if it were alone. -/
theorem Regular.alone_touches (h : Regular limits c) {ip : String} {actions : List Action}
    (hroom : .rejectedGlobal ∉ c.answers ip actions) :
    Entry.alone limits (c.table.entry? ip) (c.touches ip actions) =
      (c.answers ip actions, (c.after actions).table.entry? ip) := by
  induction actions generalizing c with
  | nil => rfl
  | cons a actions ih =>
    rw [answers, List.mem_append, not_or] at hroom
    have hrest := ih (h.act a) hroom.2
    have hfirst := hroom.1
    have htouched := h.touched a ip
    rw [touches, answers, show c.after (a :: actions) = (c.act a).after actions from rfl]
    generalize c.touch? ip a = touch at htouched
    generalize c.answer? ip a = answer at htouched hfirst
    generalize (c.act a).table.entry? ip = entry at htouched hrest
    cases htouched with
    | apart => exact hrest
    | full now => exact absurd List.mem_cons_self hfirst
    | asked now =>
      simp only [Option.toList_some, List.singleton_append, Entry.alone, hrest]
    | gaveBack => exact hrest

/-- Two histories of a controller that touch a client in the same way, at the same readings of the
clock, answer it in the same way and leave it the same entry, whatever the other clients do.  Only
the limit on all connections must not refuse the client. -/
theorem isolated_of_touches_eq (limits : Limits) {first second : List Action} {ip : String}
    (htouches : (new true limits).touches ip first = (new true limits).touches ip second)
    (hfirst : .rejectedGlobal ∉ (new true limits).answers ip first)
    (hsecond : .rejectedGlobal ∉ (new true limits).answers ip second) :
    (new true limits).answers ip first = (new true limits).answers ip second ∧
      ((new true limits).after first).table.entry? ip =
        ((new true limits).after second).table.entry? ip := by
  have hstart : Regular limits (new true limits) := regular_new limits
  have hone := hstart.alone_touches hfirst
  have htwo := hstart.alone_touches hsecond
  rw [htouches, htwo] at hone
  obtain ⟨hanswers, hentry⟩ := Prod.mk.inj hone
  exact ⟨hanswers.symm, hentry.symm⟩

/-- A client that takes a connection over, is refused a second one and passes the first one on
cannot tell this from a history in which it opens the connection and gives it back itself. -/
theorem isolated_of_touches_eq_of_proxy :
    let first : List Action := [.attempt "x" 0, .attempt "proxy" 5, .transfer "proxy" "x" 10,
      .attempt "x" 70000, .transfer "x" "y" 70001, .attempt "x" 70002]
    let second : List Action := [.attempt "z" 0, .transfer "z" "x" 0, .transfer "x" "x" 5,
      .attempt "x" 10, .attempt "x" 70000, .release "x" 70000, .release "z" 70001,
      .transfer "y" "x" 70002]
    let c := new true ⟨3, 2, 2⟩
    c.touches "x" first = c.touches "x" second ∧
      .rejectedGlobal ∉ c.answers "x" first ∧ .rejectedGlobal ∉ c.answers "x" second ∧
      c.answers "x" first = [.admitted, .admitted, .rejectedPerIp, .admitted] ∧
      c.answers "x" first = c.answers "x" second ∧
      (c.after first).table.entry? "x" = (c.after second).table.entry? "x" := by
  intro first second c
  have htouches : c.touches "x" first = c.touches "x" second := by decide
  have hfirst : .rejectedGlobal ∉ c.answers "x" first := by decide
  have hsecond : .rejectedGlobal ∉ c.answers "x" second := by decide
  exact ⟨htouches, hfirst, hsecond, by decide,
    isolated_of_touches_eq ⟨3, 2, 2⟩ htouches hfirst hsecond⟩

end Controller
end Admission
end WebSocket
