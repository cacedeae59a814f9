import CloudBalance.Command.Nodes

/-!
# Showing the ledger

A table of the recorded balancers.
-/

namespace CloudBalance.Session

open Net (Address)
open Terminal (Span Line)

/-- A row of the table from its cells. -/
def recordRow (name provider zone protocol ports dnsName addresses : Span) : Line :=
  [name.padded 16, .plain " ", provider.padded 14, .plain " ", zone.padded 8, .plain " ",
    protocol.padded 6, .plain " ", ports.padded 12, .plain " ", dnsName.padded 40, .plain " ",
    addresses]

def recordHeader : Line :=
  .styled .bold (Line.text (recordRow (.plain "NAME") (.plain "PROVIDER") (.plain "ZONE")
    (.plain "PROTO") (.plain "PORTS") (.plain "DNS") ((Span.plain "ADDRESSES").padded 20)))

def recordLine (record : Ledger.Record) : Line :=
  let addresses : Span :=
    if record.addresses.isEmpty then .styled .red "unresolved"
    else .styled .green (", ".intercalate (record.addresses.map Address.text))
  recordRow (.styled .cyan record.name) (.plain record.provider) (.plain record.location.id)
    (.plain record.spec.protocol.text)
    (.plain (toString record.spec.balancerPort ++ "→" ++ toString record.spec.instancePort))
    (.plain record.dnsName) addresses

/-- The lines of the table. -/
def recordTable (records : List Ledger.Record) : List Line :=
  if records.isEmpty then [.styled .dimmed "作成済みのロードバランサーはありません"]
  else [recordHeader, ruler 120] ++ records.map recordLine

/-- Shows the ledger. -/
def list (store : Ledger.Store) : Act Unit := do
  let ledger ← ofLocal store.load
  printAll (recordTable ledger.records)

end CloudBalance.Session
