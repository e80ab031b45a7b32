import Testbed.Text.Blank
import Testbed.Text.Split
/-!
# Packet filter rules

A partitioned node drops all traffic from and to the subnet of the cluster, but still talks to the
gateway. `FilterRule.text` is a rule as the filter lists it, and `parseRules` finds the rules of the
two chains in such a listing.
-/

namespace Testbed

inductive Chain where
  | input
  | output
  deriving DecidableEq, Repr

inductive Target where
  | accept
  | drop
  deriving DecidableEq, Repr

structure FilterRule where
  chain : Chain
  address : String
  target : Target
  deriving DecidableEq

def Chain.text : Chain → String
  | .input => "INPUT"
  | .output => "OUTPUT"

/-- Incoming packets are matched on where they come from, outgoing ones on where they go. -/
def Chain.addressFlag : Chain → String
  | .input => "-s"
  | .output => "-d"

def Target.text : Target → String
  | .accept => "ACCEPT"
  | .drop => "DROP"

namespace FilterRule

def words (r : FilterRule) : List String :=
  [r.chain.text, r.chain.addressFlag, r.address, "-j", r.target.text]

def text (r : FilterRule) : String := "-A " ++ Text.spaced r.words

/-- The command that succeeds if and only if the rule is in place. -/
def checkCommand (r : FilterRule) : List String := "iptables" :: "-C" :: r.words

def appendCommand (r : FilterRule) : List String := "iptables" :: "-A" :: r.words

end FilterRule

namespace Firewall

/-- The rules that isolate a node. Within each chain the gateway comes before the subnet. -/
def partitionRules (subnet gateway : String) : List FilterRule :=
  [⟨.input, gateway, .accept⟩, ⟨.input, subnet, .drop⟩,
    ⟨.output, gateway, .accept⟩, ⟨.output, subnet, .drop⟩]

/-- The commands that take every rule out of the two chains. -/
def flushCommands : List (List String) :=
  [Chain.input, Chain.output].map fun c => ["iptables", "-F", c.text]

def listCommand : List String := ["iptables", "-S"]

def isRuleLine (cs : List Char) : Bool :=
  "-A INPUT ".toList.isPrefixOf cs || "-A OUTPUT ".toList.isPrefixOf cs

/-- The rules of the two chains in a listing, in order. Blanks around a line do not count, and so
neither does a carriage return at its end. -/
def parseRules (listing : String) : List String :=
  (((Text.split '\n' listing.toList).map Text.trimChars).filter isRuleLine).map String.ofList

end Firewall

end Testbed
