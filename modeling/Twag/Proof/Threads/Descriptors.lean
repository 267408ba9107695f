import Twag.Impl.Descriptors

/-!
# Every descriptor is closed once, except those that `genl_socket_open` loses

A thread's `part` of the state is the descriptors that it opened, and for the
thread of `main` the members and `handlers_`. No call goes beyond it
(`apart`), so each thread's program is understood alone. `Tidy` is what holds of
the thread of `main` between its functions: an open descriptor is in exactly one
member, or lost, and a handler is the one of the server whose socket is watched.

`descriptors_kept`: in every interleaving a thread closes only descriptors that
it has opened and that are open, the event loop waits with all three sockets
bound, watched and handled, and a thread that is done has left open nothing but
netlink sockets that `genl_socket_open` could not bind.
-/

namespace Twag.Proof.Threads

open Twag.Impl (ThreadId)
open Twag.Impl.Descriptors

variable {s s' s₁ s₂ : Os} {t : ThreadId} {fd : Nat} {d e : Descriptor}

/-! ## Parts -/

/-- What a thread's calls are about. -/
def part (t : ThreadId) (s : Os) : Os where
  fds fd := (s.fds fd).filter (·.thread = t)
  members := if t = .loop then s.members else fun _ => none
  handlers := if t = .loop then s.handlers else fun _ => none

theorem part_fresh (t : ThreadId) : part t .fresh = .fresh := by
  simp [part, Os.fresh]

theorem fds_part : (part t s).fds fd = some d ↔ s.fds fd = some d ∧ d.thread = t := by
  simp [part, Option.filter_eq_some_iff]

theorem part_put (t : ThreadId) (s : Os) (fd : Nat) (d : Option Descriptor) :
    part t (s.put fd d) = (part t s).put fd (d.filter (·.thread = t)) := by
  simp only [part, Os.put, Os.mk.injEq, and_self, and_true]
  funext n
  by_cases hn : n = fd
  · subst hn
    simp
  · simp [hn]

@[simp] theorem put_put (s : Os) (fd : Nat) (a b : Option Descriptor) :
    (s.put fd a).put fd b = s.put fd b := by
  simp [Os.put]

theorem put_eq_self (s : Os) (fd : Nat) : s.put fd (s.fds fd) = s := by
  simp [Os.put]

theorem put_none (h : s.fds fd = none) : s.put fd none = s := by
  rw [← h, put_eq_self]

/-! ## What the thread of `main` keeps -/

/-- A netlink socket that `genl_socket_open` could not bind. -/
def lost : Descriptor := ⟨.generic, .loop, false, false⟩

/-- What a member holds. -/
def kindOf : Member → Kind
  | .epollFd => .epoll
  | .udpFd _ => .udp

structure Tidy (s : Os) : Prop where
  known : ∀ fd d, s.fds fd = some d → d = lost ∨ ∃ m, s.members m = some fd
  held : ∀ m fd, s.members m = some fd → ∃ d, s.fds fd = some d ∧ d.kind = kindOf m
  single : ∀ m m' fd, s.members m = some fd → s.members m' = some fd → m = m'
  handled : ∀ fd server, s.handlers fd = some server ↔
    s.members (.udpFd server) = some fd ∧ ∃ d, s.fds fd = some d ∧ d.watched = true

/-- A server's `initialize` has returned true. -/
def Up (s : Os) (server : Server) : Prop :=
  ∃ fd, s.members (.udpFd server) = some fd ∧ s.handlers fd = some server ∧
    s.fds fd = some ⟨.udp, .loop, true, true⟩

/-- `TwagCore::initialize` has returned true. -/
structure Serving (s : Os) : Prop extends Tidy s where
  epoll : ∃ fd, s.members .epollFd = some fd
  up : ∀ server, Up s server

/-- What a call needs of the thread that makes it. -/
def Ok (t : ThreadId) : Sys → Os → Prop
  | .create u _, _ => u = t
  | .bind fd, s => (s.fds fd).isSome
  | .close fd, s => ∀ n, fd = some n → (s.fds n).isSome
  | .epollAdd fd, s | .epollDel fd, s => t = .loop ∧ (s.fds fd).isSome
  | .epollWait, s => t = .loop ∧ Serving s
  | .get _, _ | .set _ _, _ | .handler _ _, _ => t = .loop
  | .ask, _ => True

/-- A change of one descriptor of `t` is within its part. -/
theorem part_update {f : Descriptor → Descriptor} (hf : ∀ d, (f d).thread = d.thread)
    (h : ((part t s).fds fd).isSome) :
    part t (s.put fd ((s.fds fd).map f)) = (part t s).put fd (((part t s).fds fd).map f) := by
  obtain ⟨d, hd⟩ := Option.isSome_iff_exists.1 h
  obtain ⟨hs, ht⟩ := fds_part.1 hd
  have hown : decide ((f d).thread = t) = true := by simp [hf, ht]
  rw [part_put, hd, hs, Option.map_some, Option.filter_some, if_pos hown]

theorem part_put_ne {u : ThreadId} {d' : Option Descriptor}
    (hs : ∀ d, s.fds fd = some d → d.thread ≠ u) (hd : ∀ d, d' = some d → d.thread ≠ u) :
    part u (s.put fd d') = part u s := by
  have hnone : d'.filter (·.thread = u) = none := by
    simpa [Option.filter_eq_none_iff] using hd
  have hsame : (part u s).fds fd = none := by
    simpa [part, Option.filter_eq_none_iff] using hs
  rw [part_put, hnone, put_none hsame]

theorem thread_of_ok (h : ((part t s).fds fd).isSome) : ∃ d, s.fds fd = some d ∧ d.thread = t := by
  obtain ⟨d, hd⟩ := Option.isSome_iff_exists.1 h
  exact ⟨d, fds_part.1 hd⟩

theorem part_update_ne {u : ThreadId} {f : Descriptor → Descriptor}
    (hf : ∀ d, (f d).thread = d.thread) (h : ((part t s).fds fd).isSome) (hu : u ≠ t) :
    part u (s.put fd ((s.fds fd).map f)) = part u s := by
  obtain ⟨d, hs, ht⟩ := thread_of_ok h
  have hne : d.thread ≠ u := ht ▸ hu.symm
  exact part_put_ne (by simpa [hs] using hne) (by simpa [hs, hf] using hne)

theorem apart : Pool.Apart part Sys.Sem Ok where
  own t o s ans s' hok hsem := by
    cases o with
    | create u kind =>
      obtain rfl : u = t := hok
      obtain ⟨rfl, rfl⟩ | ⟨fd, rfl, hfree, rfl⟩ := hsem
      · exact .inl ⟨rfl, rfl⟩
      · refine .inr ⟨fd, rfl, by simp [part, hfree], ?_⟩
        rw [part_put, Option.filter_some, if_pos (decide_eq_true rfl)]
    | bind fd =>
      subst hsem
      cases ans with
      | false => rfl
      | true => exact part_update (fun _ => rfl) hok
    | close fd =>
      subst hsem
      cases fd with
      | none => rfl
      | some fd => exact part_put t s fd none
    | epollAdd fd =>
      subst hsem
      cases ans with
      | false => rfl
      | true => exact part_update (fun _ => rfl) hok.2
    | epollDel fd =>
      obtain ⟨rfl, rfl⟩ := hsem
      obtain ⟨d, hs, ht⟩ := thread_of_ok hok.2
      refine ⟨?_, part_update (fun _ => rfl) hok.2⟩
      rw [fds_part.2 ⟨hs, ht⟩, hs]
    | epollWait | ask => exact congrArg (part t) hsem
    | get m =>
      obtain rfl : t = .loop := hok
      obtain ⟨rfl, rfl⟩ := hsem
      exact ⟨rfl, rfl⟩
    | set m fd =>
      obtain rfl : t = .loop := hok
      obtain rfl : s' = _ := hsem
      rfl
    | handler fd server =>
      obtain rfl : t = .loop := hok
      obtain rfl : s' = _ := hsem
      rfl
  others t o s ans s' hok hsem u hu := by
    cases o with
    | create v kind =>
      obtain rfl : v = t := hok
      obtain ⟨rfl, rfl⟩ | ⟨fd, rfl, hfree, rfl⟩ := hsem
      · rfl
      · exact part_put_ne (by simp [hfree]) (by simpa using Ne.symm hu)
    | bind fd =>
      obtain rfl : s' = _ := hsem
      cases ans with
      | false => rfl
      | true => exact part_update_ne (fun _ => rfl) hok hu
    | close fd =>
      obtain rfl : s' = _ := hsem
      cases fd with
      | none => rfl
      | some fd =>
        obtain ⟨d, hs, ht⟩ := thread_of_ok (hok fd rfl)
        exact part_put_ne (by simpa [hs, ht] using hu.symm) (by simp)
    | epollAdd fd =>
      obtain rfl : s' = _ := hsem
      cases ans with
      | false => rfl
      | true => exact part_update_ne (fun _ => rfl) hok.2 hu
    | epollDel fd =>
      obtain ⟨-, rfl⟩ := hsem
      exact part_update_ne (fun _ => rfl) hok.2 hu
    | epollWait | ask => exact congrArg (part u) hsem
    | get m =>
      obtain ⟨-, rfl⟩ := hsem
      rfl
    | set m fd =>
      obtain rfl : t = .loop := hok
      obtain rfl : s' = _ := hsem
      simp [part, hu]
    | handler fd server =>
      obtain rfl : t = .loop := hok
      obtain rfl : s' = _ := hsem
      simp [part, hu]

/-! ## Sockets that a function opens and closes -/

/-- `fd` has been opened as `d`, or opening it has failed. -/
def Opened (s : Os) (fd : Option Nat) (s' : Os) (d : Descriptor) : Prop :=
  (fd = none ∧ s' = s) ∨ ∃ n, fd = some n ∧ s.fds n = none ∧ s' = s.put n (some d)

theorem Opened.isOpen {o : Option Nat} (h : Opened s o s' d) :
    ∀ n, o = some n → (s'.fds n).isSome := by
  rintro n rfl
  obtain ⟨hnone, -⟩ | ⟨m, hm, -, rfl⟩ := h
  · cases hnone
  · cases hm
    simp [Os.put]

/-- What stays open while another descriptor is opened. -/
theorem Opened.isOpen_of {o : Option Nat} (h : Opened s o s' d) {n : Nat} (hn : (s.fds n).isSome) :
    (s'.fds n).isSome := by
  obtain ⟨-, rfl⟩ | ⟨m, -, hm, rfl⟩ := h
  · exact hn
  · have hne : n ≠ m := fun heq => by simp [heq, hm] at hn
    simpa [Os.put, hne] using hn

theorem Opened.close {o : Option Nat} (h : Opened s o s' d) : s'.close o = s := by
  obtain ⟨rfl, rfl⟩ | ⟨n, rfl, hn, rfl⟩ := h
  · rfl
  · rw [Os.close, put_put, put_none hn]

theorem put_comm {n m : Nat} (h : n ≠ m) (a b : Option Descriptor) :
    (s.put n a).put m b = (s.put m b).put n a := by
  simp only [Os.put, Function.update_comm h]

/-- A descriptor is closed that was opened before. -/
theorem Opened.close_earlier {a o : Option Nat} (h : Opened s o s' d)
    (ha : ∀ n, a = some n → (s.fds n).isSome) : Opened (s.close a) o (s'.close a) d := by
  cases a with
  | none => exact h
  | some m =>
    obtain ⟨rfl, rfl⟩ | ⟨n, rfl, hn, rfl⟩ := h
    · exact .inl ⟨rfl, rfl⟩
    · have hne : n ≠ m := fun heq => by simpa [← heq, hn] using ha m rfl
      refine .inr ⟨n, rfl, by simp [Os.close, Os.put, hne, hn], ?_⟩
      exact put_comm hne _ _

/-- `p`, run alone by `t` from `s`, makes only calls it may, and ends as `post` says. -/
abbrev Runs {α : Type} (t : ThreadId) (post : α → Os → Prop) (p : Calls α) (s : Os) : Prop :=
  p.Safe Sys.Sem (Ok t) post s

theorem runs_create (t : ThreadId) (kind : Kind) (s : Os) :
    Runs t (fun o s' => Opened s o s' ⟨kind, t, false, false⟩) (create t kind) s :=
  Prog.safe_op rfl fun _ _ h => h

theorem runs_close {o : Option Nat} (h : ∀ n, o = some n → (s.fds n).isSome) :
    Runs t (fun _ s' => s' = s.close o) (closeFd o) s :=
  Prog.safe_op h fun _ _ h => h

theorem runs_bind (h : s.fds fd = some d) :
    Runs t (fun ok s' => s' = if ok then s.put fd (some { d with bound := true }) else s)
      (bindFd fd) s := by
  refine Prog.safe_op (by simp [Ok, h]) fun ok s' hs => ?_
  rw [show s' = _ from hs, h]
  rfl

theorem runs_ask (s : Os) : Runs t (fun _ s' => s' = s) ask s :=
  Prog.safe_op trivial fun _ _ h => h

theorem fds_put_self (s : Os) (fd : Nat) (o : Option Descriptor) : (s.put fd o).fds fd = o := by
  simp [Os.put]

theorem runs_localAddress (t : ThreadId) (s : Os) :
    Runs t (fun _ s' => s' = s) (localAddress t) s := by
  refine Prog.safe_bind _ (runs_create t .udp s) fun o s₁ hopen => ?_
  cases o with
  | none => exact hopen.elim (·.2) (by simp)
  | some fd => exact (runs_close hopen.isOpen).mono fun _ s' hs => hs.trans hopen.close

theorem runs_rtnlOpen (s : Os) :
    Runs .loop (fun o s' => Opened s o s' ⟨.route, .loop, true, false⟩) rtnlOpen s := by
  refine Prog.safe_bind _ (runs_create .loop .route s) fun o s₁ hopen => ?_
  obtain ⟨rfl, rfl⟩ | ⟨nl, rfl, hfree, rfl⟩ := hopen
  · exact .inl ⟨rfl, rfl⟩
  · refine Prog.safe_bind _ (runs_bind (fds_put_self _ _ _)) fun ok s₂ hbind => ?_
    subst hbind
    cases ok with
    | true => exact .inr ⟨nl, rfl, hfree, put_put _ _ _ _⟩
    | false =>
      refine Prog.safe_bind _ (runs_close (by simp [fds_put_self])) fun _ s₃ hclose => ?_
      exact .inl ⟨rfl, hclose.trans ((put_put _ _ _ _).trans (put_none hfree))⟩

theorem runs_gtpDevCreate (s : Os) : Runs .loop (fun _ s' => s' = s) gtpDevCreate s := by
  refine Prog.safe_bind _ (runs_rtnlOpen s) fun o s₁ hopen => ?_
  cases o with
  | none => exact hopen.elim (·.2) (by simp)
  | some fd => exact (runs_close hopen.isOpen).mono fun _ s' hs => hs.trans hopen.close

theorem runs_genlSocketOpen (s : Os) :
    Runs .loop (fun nl s' => (∃ n, nl = some n ∧ Opened s nl s' ⟨.generic, .loop, true, false⟩) ∨
      (nl = none ∧ ∃ o, Opened s o s' lost)) genlSocketOpen s := by
  refine Prog.safe_bind _ (runs_create .loop .generic s) fun o s₁ hopen => ?_
  obtain ⟨rfl, rfl⟩ | ⟨nl, rfl, hfree, rfl⟩ := hopen
  · exact .inr ⟨rfl, none, .inl ⟨rfl, rfl⟩⟩
  · refine Prog.safe_bind _ (runs_bind (fds_put_self _ _ _)) fun ok s₂ hbind => ?_
    subst hbind
    cases ok with
    | true => exact .inl ⟨nl, rfl, .inr ⟨nl, rfl, hfree, put_put _ _ _ _⟩⟩
    | false => exact .inr ⟨rfl, some nl, .inr ⟨nl, rfl, hfree, rfl⟩⟩

/-- Two sockets are closed, the first one first, where `o` was opened after them. -/
theorem runs_closeTwo {fd0 fd1 o : Option Nat} {s₃ : Os} {α : Type} (a : α)
    (h0 : Opened s fd0 s₁ d) (h1 : Opened s₁ fd1 s₂ d) (h2 : Opened s₂ o s₃ e) :
    Runs t (fun _ s' => Opened s o s' e)
      (do closeFd fd0; closeFd fd1; return a) s₃ := by
  have hopen0 : ∀ n, fd0 = some n → (s₂.fds n).isSome := fun n hn =>
    h1.isOpen_of (h0.isOpen n hn)
  refine Prog.safe_bind _ (runs_close fun n hn => h2.isOpen_of (hopen0 n hn)) fun _ s₄ hs₄ => ?_
  subst hs₄
  -- without `fd0` the second socket was opened in `s`
  have h1' := h1.close_earlier (h0.isOpen)
  rw [h0.close] at h1'
  have h2' := h2.close_earlier hopen0
  refine Prog.safe_bind _ (runs_close fun n hn => h2'.isOpen_of (h1'.isOpen n hn))
    fun _ s₅ hs₅ => ?_
  subst hs₅
  have h3 := h2'.close_earlier h1'.isOpen
  rw [h1'.close] at h3
  exact h3

/-- Setting up a tunnel leaves nothing open but what `genl_socket_open` loses. -/
theorem runs_setupKernelGtpuTunnel (s : Os) :
    Runs .loop (fun _ s' => ∃ o, Opened s o s' lost) setupKernelGtpuTunnel s := by
  refine Prog.safe_bind _ (runs_create .loop .udp s) fun fd0 s₁ h0 => ?_
  refine Prog.safe_bind _ (runs_create .loop .udp s₁) fun fd1 s₂ h1 => ?_
  refine Prog.safe_bind _ (runs_gtpDevCreate s₂) fun _ s₂' hsame => ?_
  subst hsame
  refine Prog.safe_bind _ (runs_genlSocketOpen s₂') fun nl s₃ hnl => ?_
  obtain ⟨n, rfl, hnl⟩ | ⟨rfl, o, hlost⟩ := hnl
  · -- all three ways out close the netlink socket and then the two others
    have hways : ∀ b : Bool, Runs .loop (fun _ s' => ∃ o, Opened s o s' lost)
        (do closeFd (some n); closeFd fd0; closeFd fd1; return b) s₃ := fun b => by
      refine Prog.safe_bind _ (runs_close hnl.isOpen) fun _ s₄ hs₄ => ?_
      obtain rfl : s₄ = s₂' := hs₄.trans hnl.close
      exact (runs_closeTwo b h0 h1 (.inl ⟨rfl, rfl⟩)).mono fun _ _ h => ⟨none, h⟩
    refine Prog.safe_bind _ (runs_ask s₃) fun found s₄ hs₄ => ?_
    subst hs₄
    cases found with
    | false => exact hways false
    | true =>
      refine Prog.safe_bind _ (runs_ask s₄) fun alloc s₅ hs₅ => ?_
      subst hs₅
      cases alloc with
      | false => exact hways false
      | true => exact hways true
  · exact (runs_closeTwo false h0 h1 hlost).mono fun _ _ h => ⟨o, h⟩

/-! ## The thread of `main` -/

/-- Nothing is closed or taken away from `s` to `s'`. -/
structure Extends (s s' : Os) : Prop where
  fds : ∀ fd d, s.fds fd = some d → s'.fds fd = some d
  members : ∀ m fd, s.members m = some fd → s'.members m = some fd
  handlers : ∀ fd server, s.handlers fd = some server → s'.handlers fd = some server

theorem Extends.refl (s : Os) : Extends s s := ⟨fun _ _ h => h, fun _ _ h => h, fun _ _ h => h⟩

theorem Extends.trans (h : Extends s s₁) (h' : Extends s₁ s₂) : Extends s s₂ :=
  ⟨fun fd d hd => h'.fds fd d (h.fds fd d hd), fun m fd hm => h'.members m fd (h.members m fd hm),
    fun fd server hs => h'.handlers fd server (h.handlers fd server hs)⟩

theorem Extends.up (h : Extends s s') {server : Server} (hup : Up s server) : Up s' server := by
  obtain ⟨fd, hm, hh, hd⟩ := hup
  exact ⟨fd, h.members _ _ hm, h.handlers _ _ hh, h.fds _ _ hd⟩

theorem Tidy.lose {o : Option Nat} (h : Tidy s) (hopen : Opened s o s' lost) :
    Tidy s' ∧ Extends s s' ∧ s'.members = s.members := by
  obtain ⟨-, rfl⟩ | ⟨n, -, hfree, rfl⟩ := hopen
  · exact ⟨h, .refl _, rfl⟩
  · have hne : ∀ fd d, s.fds fd = some d → fd ≠ n := fun fd d hd heq => by simp [heq, hfree] at hd
    have hold : ∀ fd d, s.fds fd = some d → (s.put n (some lost)).fds fd = some d := by
      intro fd d hd
      simpa [Os.put, hne fd d hd] using hd
    refine ⟨⟨fun fd d hd => ?_, fun m fd hm => ?_, h.single, fun fd server => ?_⟩,
      ⟨hold, fun _ _ hm => hm, fun _ _ hh => hh⟩, rfl⟩
    · by_cases hfd : fd = n
      · subst hfd
        rw [fds_put_self, Option.some.injEq] at hd
        exact .inl hd.symm
      · exact h.known fd d (by simpa [Os.put, hfd] using hd)
    · obtain ⟨d, hd, hk⟩ := h.held m fd hm
      exact ⟨d, hold fd d hd, hk⟩
    · rw [show (s.put n (some lost)).handlers = s.handlers from rfl, h.handled]
      refine and_congr_right fun hm => ?_
      obtain ⟨d, hd, -⟩ := h.held _ fd hm
      rw [hold fd d hd, hd]

theorem Serving.lose {o : Option Nat} (h : Serving s) (hopen : Opened s o s' lost) :
    Serving s' := by
  obtain ⟨htidy, hext, -⟩ := h.toTidy.lose hopen
  obtain ⟨fd, hfd⟩ := h.epoll
  exact { htidy with
    epoll := ⟨fd, hext.members _ _ hfd⟩
    up := fun server => hext.up (h.up server) }

/-- `s` with a new descriptor in a member. -/
def hold (s : Os) (m : Member) (fd : Nat) (d : Descriptor) : Os :=
  ⟨Function.update s.fds fd (some d), Function.update s.members m (some fd), s.handlers⟩

/-- `s` without a member's descriptor and its handler. -/
def drop (s : Os) (m : Member) (fd : Nat) : Os :=
  ⟨Function.update s.fds fd none, Function.update s.members m none,
    Function.update s.handlers fd none⟩

@[simp, grind =] theorem fds_hold (s : Os) (m : Member) (fd : Nat) (d : Descriptor) (n : Nat) :
    (hold s m fd d).fds n = if n = fd then some d else s.fds n :=
  Function.update_apply _ _ _ _

@[simp, grind =] theorem members_hold (s : Os) (m m' : Member) (fd : Nat) (d : Descriptor) :
    (hold s m fd d).members m' = if m' = m then some fd else s.members m' :=
  Function.update_apply _ _ _ _

@[simp, grind =] theorem handlers_hold (s : Os) (m : Member) (fd : Nat) (d : Descriptor) (n : Nat) :
    (hold s m fd d).handlers n = s.handlers n := rfl

@[simp, grind =] theorem fds_drop (s : Os) (m : Member) (fd n : Nat) :
    (drop s m fd).fds n = if n = fd then none else s.fds n :=
  Function.update_apply _ _ _ _

@[simp, grind =] theorem members_drop (s : Os) (m m' : Member) (fd : Nat) :
    (drop s m fd).members m' = if m' = m then none else s.members m' :=
  Function.update_apply _ _ _ _

@[simp, grind =] theorem handlers_drop (s : Os) (m : Member) (fd n : Nat) :
    (drop s m fd).handlers n = if n = fd then none else s.handlers n :=
  Function.update_apply _ _ _ _

theorem Tidy.hold {m : Member} (h : Tidy s) (hm : s.members m = none) (hfree : s.fds fd = none)
    (hk : d.kind = kindOf m) (hw : d.watched = false) :
    Tidy (hold s m fd d) ∧ Extends s (hold s m fd d) := by
  obtain ⟨hknown, hheld, hsingle, hhandled⟩ := h
  refine ⟨⟨fun n e he => ?_, ?_, ?_, ?_⟩, ?_, ?_, ?_⟩
  · by_cases hn : n = fd
    · exact .inr ⟨m, by simp [hn]⟩
    · obtain hlost | ⟨m', hm'⟩ := hknown n e (by simpa [hn] using he)
      · exact .inl hlost
      · exact .inr ⟨m', by grind⟩
  all_goals grind

/-- `add_fd` succeeds. -/
theorem Tidy.watch {server : Server} (h : Tidy s) (hm : s.members (.udpFd server) = some fd)
    (hd : s.fds fd = some d) :
    Tidy ⟨Function.update s.fds fd (some { d with watched := true }), s.members,
      Function.update s.handlers fd (some server)⟩ := by
  obtain ⟨hknown, hheld, hsingle, hhandled⟩ := h
  refine ⟨?_, ?_, ?_, ?_⟩
  all_goals grind [Function.update_apply]

theorem Tidy.drop {m : Member} (h : Tidy s) (hm : s.members m = some fd) : Tidy (drop s m fd) := by
  obtain ⟨hknown, hheld, hsingle, hhandled⟩ := h
  refine ⟨fun n e he => ?_, ?_, ?_, ?_⟩
  · have hn : n ≠ fd := fun heq => by simp [heq] at he
    obtain hlost | ⟨m', hm'⟩ := hknown n e (by simpa [hn] using he)
    · exact .inl hlost
    · exact .inr ⟨m', by grind⟩
  all_goals grind

/-- A descriptor that is not watched has no handler. -/
theorem Tidy.handlers_eq_none (h : Tidy s) (hd : s.fds fd = some d) (hw : d.watched = false) :
    s.handlers fd = none := by
  cases hh : s.handlers fd with
  | none => rfl
  | some server =>
    obtain ⟨-, e, he, hwe⟩ := (h.handled fd server).1 hh
    rw [hd, Option.some.injEq] at he
    rw [← he, hw] at hwe
    cases hwe

theorem setMember_none {m : Member} (h : s.members m = none) :
    { s with members := Function.update s.members m none } = s := by
  rw [← h, Function.update_eq_self]

theorem runs_setMember (m : Member) (o : Option Nat) (s : Os) :
    Runs .loop (fun _ s' => s' = { s with members := Function.update s.members m o })
      (setMember m o) s :=
  Prog.safe_op rfl fun _ _ h => h

theorem runs_member (m : Member) (s : Os) :
    Runs .loop (fun o s' => o = s.members m ∧ s' = s) (member m) s :=
  Prog.safe_op rfl fun _ _ h => h

theorem runs_setHandler (fd : Nat) (o : Option Server) (s : Os) :
    Runs .loop (fun _ s' => s' = { s with handlers := Function.update s.handlers fd o })
      (setHandler fd o) s :=
  Prog.safe_op rfl fun _ _ h => h

/-- `add_fd` of a descriptor in a server's member. -/
theorem runs_addFd {server : Server} (h : Tidy s) (hm : s.members (.udpFd server) = some fd)
    (hd : s.fds fd = some ⟨.udp, .loop, true, false⟩) :
    Runs .loop (fun ok s' => Tidy s' ∧ s'.members = s.members ∧
        (∀ n, n ≠ fd → s'.fds n = s.fds n ∧ s'.handlers n = s.handlers n) ∧
        (ok = true → Up s' server)) (addFd fd server) s := by
  refine Prog.safe_bind
    (fun ok s' => s' = if ok then s.put fd (some ⟨.udp, .loop, true, true⟩) else s)
    (Prog.safe_op ⟨rfl, by simp [hd]⟩ fun ok s' hs => ?_) fun ok s₁ hs₁ => ?_
  · rw [show s' = _ from hs, hd]
    rfl
  · subst hs₁
    cases ok with
    | false => exact ⟨h, rfl, fun _ _ => ⟨rfl, rfl⟩, nofun⟩
    | true =>
      refine Prog.safe_bind _ (runs_setHandler fd (some server) _) fun _ s₂ hs₂ => ?_
      subst hs₂
      refine ⟨h.watch hm hd, rfl, fun n hn => ?_, fun _ => ⟨fd, hm, ?_, ?_⟩⟩
      · exact ⟨Function.update_of_ne hn _ _, Function.update_of_ne hn _ _⟩
      · exact Function.update_self _ _ _
      · exact Function.update_self _ _ _

/-- What a server's `initialize` leaves. -/
def Started (s : Os) (server : Server) (ok : Bool) (s' : Os) : Prop :=
  Tidy s' ∧ Extends s s' ∧ (∀ m, m ≠ .udpFd server → s'.members m = s.members m) ∧
    (ok = true → Up s' server)

theorem runs_serverInitializeWith {server : Server} {check : Calls Bool} (h : Tidy s)
    (hm : s.members (.udpFd server) = none)
    (hcheck : ∀ s, Runs .loop (fun _ s' => s' = s) check s) :
    Runs .loop (Started s server) (serverInitializeWith server check) s := by
  refine Prog.safe_bind _ (runs_create .loop .udp s) fun o s₁ hopen => ?_
  refine Prog.safe_bind _ (runs_setMember _ o s₁) fun _ s₂ hs₂ => ?_
  subst hs₂
  obtain ⟨rfl, rfl⟩ | ⟨fd, rfl, hfree, rfl⟩ := hopen
  · rw [setMember_none hm]
    exact ⟨h, .refl _, fun _ _ => rfl, nofun⟩
  · refine Prog.safe_bind _ (runs_bind (d := ⟨.udp, .loop, false, false⟩) (fds_put_self _ _ _))
      fun ok s₃ hs₃ => ?_
    cases ok with
    | false =>
      subst hs₃
      refine Prog.safe_bind _ (runs_close (by simp [Os.put])) fun _ s₄ hs₄ => ?_
      refine Prog.safe_bind _ (runs_setMember _ none s₄) fun _ s₅ hs₅ => ?_
      -- the socket is closed and the member is -1 again
      obtain rfl : s₅ = s := by
        rw [hs₅, hs₄]
        simp [Os.close, Os.put, ← hm, ← hfree]
      exact ⟨h, .refl _, fun _ _ => rfl, nofun⟩
    | true =>
      obtain rfl : s₃ = hold s (.udpFd server) fd ⟨.udp, .loop, true, false⟩ := by
        rw [hs₃]
        simp [hold, Os.put]
      obtain ⟨htidy, hext⟩ := h.hold hm hfree (d := ⟨.udp, .loop, true, false⟩) rfl rfl
      have hothers : ∀ m, m ≠ .udpFd server → (hold s (.udpFd server) fd
          ⟨.udp, .loop, true, false⟩).members m = s.members m := fun m hne =>
        Function.update_of_ne hne _ _
      refine Prog.safe_bind _ (hcheck _) fun valid s₄ hs₄ => ?_
      subst hs₄
      cases valid with
      | false => exact ⟨htidy, hext, hothers, nofun⟩
      | true =>
        refine Prog.safe_bind _ (runs_addFd htidy (Function.update_self _ _ _)
          (Function.update_self _ _ _)) fun added s₅ hs₅ => ?_
        obtain ⟨htidy', hmembers, hrest, hup⟩ := hs₅
        have hstarted : Started s server added s₅ := by
          refine ⟨htidy', ⟨fun n e he => ?_, fun m n hn => ?_, fun n sv hh => ?_⟩,
            fun m hne => ?_, hup⟩
          · have hne : n ≠ fd := fun heq => by simp [heq, hfree] at he
            rw [(hrest n hne).1]
            exact hext.fds n e he
          · rw [hmembers]
            exact hext.members m n hn
          · have hne : n ≠ fd := fun heq => by
              obtain ⟨-, e, he, -⟩ := (h.handled n sv).1 hh
              simp [heq, hfree] at he
            rw [(hrest n hne).2]
            exact hh
          · rw [hmembers]
            exact hothers m hne
        cases added with
        | false => exact hstarted
        | true => exact hstarted

theorem runs_serverInitialize (server : Server) (h : Tidy s)
    (hm : s.members (.udpFd server) = none) :
    Runs .loop (Started s server) (serverInitialize server) s := by
  cases server with
  | radius | dhcp => exact runs_serverInitializeWith h hm fun _ => rfl
  | s2a => exact runs_serverInitializeWith h hm runs_ask

theorem runs_eventLoopInitialize (h : Tidy s) (hm : s.members .epollFd = none) :
    Runs .loop (fun ok s' => Tidy s' ∧ (∀ m, m ≠ .epollFd → s'.members m = s.members m) ∧
      (ok = true → ∃ fd, s'.members .epollFd = some fd)) eventLoopInitialize s := by
  refine Prog.safe_bind _ (runs_create .loop .epoll s) fun o s₁ hopen => ?_
  refine Prog.safe_bind _ (runs_setMember _ o s₁) fun _ s₂ hs₂ => ?_
  subst hs₂
  obtain ⟨rfl, rfl⟩ | ⟨fd, rfl, hfree, rfl⟩ := hopen
  · rw [setMember_none hm]
    exact ⟨h, fun _ _ => rfl, nofun⟩
  · obtain ⟨htidy, -⟩ := h.hold hm hfree (d := ⟨.epoll, .loop, false, false⟩) rfl rfl
    exact ⟨htidy, fun m hne => Function.update_of_ne hne _ _, fun _ => ⟨fd, by simp⟩⟩

/-- What a destructor leaves. -/
def Dropped (s : Os) (m : Member) (s' : Os) : Prop :=
  Tidy s' ∧ ∀ m', s'.members m' = if m' = m then none else s.members m'

theorem dropped_of_none {m : Member} (h : Tidy s) (hm : s.members m = none) :
    Dropped s m { s with members := Function.update s.members m none } := by
  rw [setMember_none hm]
  refine ⟨h, fun m' => ?_⟩
  split
  · rename_i heq
    rw [heq, hm]
  · rfl

/-- `remove_fd` and `close` of a server's socket. -/
theorem runs_serverDestroy (server : Server) (h : Tidy s) :
    Runs .loop (fun _ => Dropped s (.udpFd server)) (serverDestroy server) s := by
  refine Prog.safe_bind _ (runs_member _ s) fun o s₁ hmember => ?_
  obtain ⟨ho, rfl⟩ := hmember
  cases o with
  | none => exact (runs_setMember _ none _).mono fun _ _ hs => hs ▸ dropped_of_none h ho.symm
  | some fd =>
    obtain ⟨d, hd, -⟩ := h.held _ fd ho.symm
    have hremove : Runs .loop (fun _ s' => s' = { s₁.put fd (some { d with watched := false }) with
        handlers := Function.update s₁.handlers fd none }) (removeFd fd) s₁ := by
      refine Prog.safe_bind (fun ok s' => ok = d.watched ∧
        s' = s₁.put fd (some { d with watched := false }))
        (Prog.safe_op ⟨rfl, by simp [hd]⟩ fun ok s' hs => ?_) fun ok s₂ hs₂ => ?_
      · obtain ⟨hok, hs⟩ := hs
        rw [hd] at hok hs
        exact ⟨hok, hs⟩
      · obtain ⟨rfl, rfl⟩ := hs₂
        cases hw : d.watched with
        | true => exact Prog.safe_bind _ (runs_setHandler fd none _) fun _ _ hs => hs
        | false =>
          -- nothing is removed: there is no handler
          show s₁.put fd _ = _
          rw [← h.handlers_eq_none hd hw, Function.update_eq_self]
          rfl
    refine Prog.safe_bind _ hremove fun _ s₂ hs₂ => ?_
    subst hs₂
    refine Prog.safe_bind _ (runs_close (by simp [Os.put])) fun _ s₃ hs₃ => ?_
    refine (runs_setMember _ none _).mono fun _ s₄ hs₄ => ?_
    obtain rfl : s₄ = drop s₁ (.udpFd server) fd := by
      rw [hs₄, hs₃]
      simp [drop, Os.close, Os.put]
    exact ⟨h.drop ho.symm, fun m' => members_drop _ _ _ _⟩

theorem runs_eventLoopDestroy (h : Tidy s) :
    Runs .loop (fun _ => Dropped s .epollFd) eventLoopDestroy s := by
  refine Prog.safe_bind _ (runs_member _ s) fun o s₁ hmember => ?_
  obtain ⟨ho, rfl⟩ := hmember
  cases o with
  | none => exact (runs_setMember _ none _).mono fun _ _ hs => hs ▸ dropped_of_none h ho.symm
  | some fd =>
    obtain ⟨d, hd, -⟩ := h.held _ fd ho.symm
    -- the descriptor of epoll is no server's
    have hnone : s₁.handlers fd = none := by
      cases hh : s₁.handlers fd with
      | none => rfl
      | some server => nomatch h.single _ _ fd ho.symm ((h.handled fd server).1 hh).1
    refine Prog.safe_bind _ (runs_close (by simp [hd])) fun _ s₂ hs₂ => ?_
    refine (runs_setMember _ none _).mono fun _ s₃ hs₃ => ?_
    obtain rfl : s₃ = drop s₁ .epollFd fd := by
      rw [hs₃, hs₂, drop, ← hnone, Function.update_eq_self]
      rfl
    exact ⟨h.drop ho.symm, fun m' => members_drop _ _ _ _⟩

/-- What the thread of `main` leaves, and starts from. -/
def AllClosed (s : Os) : Prop := Tidy s ∧ ∀ m, s.members m = none

theorem runs_coreDestroy (h : Tidy s) : Runs .loop (fun _ => AllClosed) coreDestroy s := by
  refine Prog.safe_bind _ (runs_serverDestroy .dhcp h) fun _ s₁ h₁ => ?_
  refine Prog.safe_bind _ (runs_serverDestroy .radius h₁.1) fun _ s₂ h₂ => ?_
  refine Prog.safe_bind _ (runs_serverDestroy .s2a h₂.1) fun _ s₃ h₃ => ?_
  refine (runs_eventLoopDestroy h₃.1).mono fun _ s₄ h₄ => ⟨h₄.1, fun m => ?_⟩
  rw [h₄.2, h₃.2, h₂.2, h₁.2]
  cases m with
  | epollFd => rfl
  | udpFd server => cases server <;> rfl

/-- One check of an `initialize`. -/
theorem runs_checked {p rest : Calls Bool} {mid post : Bool → Os → Prop} (hp : Runs .loop mid p s)
    (hfalse : ∀ s', mid false s' → post false s')
    (htrue : ∀ s', mid true s' → Runs .loop post rest s') :
    Runs .loop post (p >>= fun ok => if !ok then pure false else rest) s := by
  refine Prog.safe_bind _ hp fun ok s' hmid => ?_
  cases ok with
  | false => exact hfalse s' hmid
  | true => exact htrue s' hmid

theorem runs_coreInitialize (h : AllClosed s) :
    Runs .loop (fun ok s' => Tidy s' ∧ (ok = true → Serving s')) coreInitialize s := by
  obtain ⟨htidy, hnone⟩ := h
  refine runs_checked (runs_eventLoopInitialize htidy (hnone _)) (fun _ h₁ => ⟨h₁.1, nofun⟩)
    fun s₁ h₁ => ?_
  obtain ⟨htidy₁, hmembers₁, hepoll⟩ := h₁
  have hnone₁ : ∀ server, s₁.members (.udpFd server) = none := fun server => by
    rw [hmembers₁ (.udpFd server) (by simp), hnone]
  refine runs_checked (runs_serverInitialize .radius htidy₁ (hnone₁ .radius))
    (fun _ h₂ => ⟨h₂.1, nofun⟩) fun s₂ h₂ => ?_
  obtain ⟨htidy₂, hext₂, hmembers₂, hup₂⟩ := h₂
  have hdata : Runs .loop (fun _ s' => s' = s₂) dataPlaneInitialize s₂ :=
    Prog.safe_bind _ (runs_localAddress .loop s₂) fun _ _ hs => hs ▸ runs_ask _
  refine runs_checked hdata (fun _ hs => hs ▸ ⟨htidy₂, nofun⟩) fun s₂' hs => ?_
  subst hs
  refine runs_checked (runs_serverInitialize .dhcp htidy₂
    (by rw [hmembers₂ (.udpFd .dhcp) (by simp), hnone₁])) (fun _ h₃ => ⟨h₃.1, nofun⟩)
    fun s₃ h₃ => ?_
  obtain ⟨htidy₃, hext₃, hmembers₃, hup₃⟩ := h₃
  have hask : ∀ {rest : Calls Bool},
      Runs .loop (fun ok s' => Tidy s' ∧ (ok = true → Serving s')) rest s₃ →
      Runs .loop (fun ok s' => Tidy s' ∧ (ok = true → Serving s'))
        (ask >>= fun ok => if !ok then pure false else rest) s₃ := fun hrest =>
    runs_checked (runs_ask s₃) (fun _ hs => hs ▸ ⟨htidy₃, nofun⟩) fun _ hs => hs ▸ hrest
  refine hask (hask (hask (hask ?_)))
  refine runs_checked (runs_serverInitialize .s2a htidy₃
    (by rw [hmembers₃ (.udpFd .s2a) (by simp), hmembers₂ (.udpFd .s2a) (by simp), hnone₁]))
    (fun _ h₄ => ⟨h₄.1, nofun⟩) fun s₄ h₄ => ?_
  obtain ⟨htidy₄, hext₄, -, hup₄⟩ := h₄
  have hup : ∀ server, Up s₄ server := fun server => by
    cases server with
    | radius => exact (hext₃.trans hext₄).up (hup₂ rfl)
    | dhcp => exact hext₄.up (hup₃ rfl)
    | s2a => exact hup₄ rfl
  obtain ⟨fd, hfd⟩ := hepoll rfl
  exact ⟨htidy₄, fun _ => { htidy₄ with
    epoll := ⟨fd, ((hext₂.trans hext₃).trans hext₄).members _ _ hfd⟩, up := hup }⟩

theorem runs_setupTunnels (n : Nat) (h : Serving s) :
    Runs .loop (fun _ => Serving) (setupTunnels n) s := by
  induction n generalizing s with
  | zero => exact h
  | succ n ih =>
    refine Prog.safe_bind _ (runs_setupKernelGtpuTunnel s) fun _ s₁ hlost => ?_
    obtain ⟨o, hopen⟩ := hlost
    exact ih (h.lose hopen)

theorem runs_run (turns : List Nat) (h : Serving s) :
    Runs .loop (fun _ => Serving) (run turns) s := by
  induction turns generalizing s with
  | nil => exact h
  | cons n turns ih =>
    have hwait : Runs .loop (fun _ s' => s' = s) epollWait s :=
      Prog.safe_op ⟨rfl, h⟩ fun _ _ hs => hs
    refine Prog.safe_bind _ hwait fun _ s₁ hs₁ => ?_
    subst hs₁
    exact Prog.safe_bind _ (runs_setupTunnels n h) fun _ _ hs => ih hs

theorem runs_main (args : List String) (turns : List Nat) (h : AllClosed s) :
    Runs .loop (fun _ => AllClosed) (main args turns) s := by
  unfold main
  split
  · exact h
  · refine Prog.safe_bind _ (runs_coreInitialize h) fun ok s₁ h₁ => ?_
    obtain ⟨htidy, hserving⟩ := h₁
    cases ok with
    | false => exact Prog.safe_bind _ (runs_coreDestroy htidy) fun _ _ hs => hs
    | true =>
      refine Prog.safe_bind _ (runs_run turns (hserving rfl)) fun _ s₂ h₂ => ?_
      exact Prog.safe_bind _ (runs_coreDestroy h₂.toTidy) fun _ _ hs => hs

/-! ## The threads together -/

/-- What a thread's part is while it has nothing to do. -/
def AtRest : ThreadId → Os → Prop
  | .loop, s => AllClosed s
  | .dispatch _, s => s = .fresh

theorem runs_job {p : Calls Unit} (hjob : Job t p) (h : AtRest t s) :
    Runs t (fun _ => AtRest t) p s := by
  cases t with
  | loop =>
    obtain ⟨args, turns, rfl⟩ := hjob
    exact Prog.safe_bind _ (runs_main args turns h) fun _ _ hs => hs
  | dispatch n =>
    obtain rfl : p = localAddress (.dispatch n) := hjob
    exact (runs_localAddress _ s).mono fun _ _ hs => hs.trans h

theorem atRest_fresh (t : ThreadId) : AtRest t (part t .fresh) := by
  rw [part_fresh]
  cases t with
  | loop => exact ⟨⟨nofun, nofun, nofun, by simp [Os.fresh]⟩, fun _ => rfl⟩
  | dispatch n => rfl

/-- A thread closes only descriptors that it has opened and that are open; where the event loop
waits, it serves; and a thread that has nothing to do has left nothing open but lost sockets. -/
theorem descriptors_kept {p : Pool ThreadId Sys.Ans Os} (h : ProcessReaches p) :
    (∀ t fd next, p.thread t = .call (.close (some fd)) next →
      ∃ d, p.shared.fds fd = some d ∧ d.thread = t) ∧
    (∀ next, p.thread .loop = .call .epollWait next → Serving (part .loop p.shared)) ∧
    ∀ t, p.thread t = .done () → ∀ fd d, p.shared.fds fd = some d → d.thread = t → d = lost := by
  have hsafe := Pool.safe apart (fun _ _ _ => runs_job) atRest_fresh h
  refine ⟨fun t fd next hcall => ?_, fun next hcall => ?_, fun t hdone fd d hd ht => ?_⟩
  · have hclose := hsafe t
    rw [hcall] at hclose
    exact thread_of_ok (hclose.1 fd rfl)
  · have hwait := hsafe .loop
    rw [hcall] at hwait
    exact hwait.1.2
  · have hrest := hsafe t
    rw [hdone] at hrest
    have hpart := fds_part.2 ⟨hd, ht⟩
    cases t with
    | loop =>
      obtain hlost | ⟨m, hm⟩ := hrest.1.known fd d hpart
      · exact hlost
      · rw [hrest.2 m] at hm
        cases hm
    | dispatch n =>
      rw [show part (.dispatch n) p.shared = .fresh from hrest] at hpart
      cases hpart

/-- Every call succeeds, but a generic netlink socket cannot be bound; a new descriptor has the
least number that is free. -/
def sampleExec : (o : Sys) → Os → o.Ans × Os
  | .create t kind, s =>
    match (List.range 16).find? fun n => (s.fds n).isNone with
    | none => (none, s)
    | some fd => (some fd, s.put fd (some ⟨kind, t, false, false⟩))
  | .bind fd, s =>
    if (s.fds fd).any (·.kind = .generic) then (false, s)
    else (true, s.put fd ((s.fds fd).map ({ · with bound := true })))
  | .close fd, s => ((), s.close fd)
  | .epollAdd fd, s => (true, s.put fd ((s.fds fd).map ({ · with watched := true })))
  | .epollDel fd, s =>
    ((s.fds fd).any (·.watched), s.put fd ((s.fds fd).map ({ · with watched := false })))
  | .epollWait, s => ((), s)
  | .get m, s => (s.members m, s)
  | .set m fd, s => ((), { s with members := Function.update s.members m fd })
  | .handler fd server, s => ((), { s with handlers := Function.update s.handlers fd server })
  | .ask, s => (true, s)

theorem sem_sampleExec (o : Sys) (s : Os) : Sys.Sem o s (sampleExec o s).1 (sampleExec o s).2 := by
  cases o with
  | create t kind =>
    cases hfind : (List.range 16).find? fun n => (s.fds n).isNone with
    | none =>
      simp only [sampleExec, hfind]
      exact .inl ⟨rfl, rfl⟩
    | some fd =>
      simp only [sampleExec, hfind]
      exact .inr ⟨fd, rfl, by simpa using List.find?_some hfind, rfl⟩
  | bind fd =>
    by_cases hkind : (s.fds fd).any (·.kind = .generic) = true
    · simp only [sampleExec, hkind, if_true]
      rfl
    · simp only [sampleExec, hkind]
      rfl
  | epollDel fd | get m => exact ⟨rfl, rfl⟩
  | close fd | epollAdd fd | epollWait | set m fd | handler fd server | ask => rfl

/-- A process that set up two tunnels, and has ended. -/
def sampleProcess : Pool ThreadId Sys.Ans Os :=
  .idle ((do let _ ← main [] [2] : Calls Unit).run sampleExec .fresh).2

theorem reaches_sampleProcess : ProcessReaches sampleProcess :=
  have hjob : Job .loop (do let _ ← main [] [2]) := ⟨[], [2], rfl⟩
  Pool.moves_job sem_sampleExec hjob .fresh

theorem descriptors_kept_sample :
    sampleProcess.thread .loop = .done () ∧ sampleProcess.shared.fds 6 = some lost ∧
    sampleProcess.shared.fds 7 = some lost ∧
    ∀ fd d, sampleProcess.shared.fds fd = some d → d.thread = .loop → d = lost :=
  ⟨rfl, rfl, rfl, (descriptors_kept reaches_sampleProcess).2.2 .loop rfl⟩

end Twag.Proof.Threads
