import ClusterArchive.RunError

/-! Signals that cancel runs. Whoever holds a token can raise its signal, and a signal that was raised
stays so; copies of a token share the signal. -/

namespace ClusterArchive

structure Signals where
  raised : List Bool
deriving DecidableEq, Repr

structure CancelToken where
  signal : Nat
deriving DecidableEq, Repr

namespace Signals

def empty : Signals := ⟨[]⟩

def newToken (signals : Signals) : CancelToken × Signals :=
  (⟨signals.raised.length⟩, ⟨signals.raised ++ [false]⟩)

def cancel (signals : Signals) (token : CancelToken) : Signals :=
  ⟨signals.raised.set token.signal true⟩

def isCancelled (signals : Signals) (token : CancelToken) : Bool :=
  (signals.raised[token.signal]?).getD false

def check (signals : Signals) (token : CancelToken) : Except RunError Unit :=
  if signals.isCancelled token then .error .cancelled else .ok ()

end Signals

end ClusterArchive
