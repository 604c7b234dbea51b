import ProcessAccounting.Saturating
import ProcessAccounting.Queue
import ProcessAccounting.Duration
import ProcessAccounting.Document
import ProcessAccounting.Text.Pieces
import ProcessAccounting.Text.Cut
import ProcessAccounting.Text.Blank
import ProcessAccounting.Text.Numeral
import ProcessAccounting.Text.Unseen
import ProcessAccounting.Text.Quoted
import ProcessAccounting.Text.Lossy
import ProcessAccounting.ProcessRecord
import ProcessAccounting.Subtree
import ProcessAccounting.Age
import ProcessAccounting.Snapshot.Basic
import ProcessAccounting.Snapshot.Totals
import ProcessAccounting.Snapshot.Usage
import ProcessAccounting.Snapshot.Listing
import ProcessAccounting.Fault
import ProcessAccounting.Warning
import ProcessAccounting.Monitor
import ProcessAccounting.Config
import ProcessAccounting.Proc.StatLine
import ProcessAccounting.Proc.CommandLine
import ProcessAccounting.Proc.Errno
import ProcessAccounting.Proc.Directory
import ProcessAccounting.Proc.Reader
import ProcessAccounting.Source
import ProcessAccounting.Accountant
import ProcessAccounting.Platform
import ProcessAccounting.Registry
import ProcessAccounting.Proofs.Checks
import ProcessAccounting.Proofs.Duration
import ProcessAccounting.Proofs.Members
import ProcessAccounting.Proofs.Search
import ProcessAccounting.Proofs.Subtree
import ProcessAccounting.Proofs.Passes
import ProcessAccounting.Proofs.Overlap
import ProcessAccounting.Proofs.Rooted
import ProcessAccounting.Proofs.Snapshot.Conservation
import ProcessAccounting.Proofs.Snapshot.Totals
import ProcessAccounting.Proofs.Snapshot.Times
import ProcessAccounting.Proofs.Snapshot.Usage
import ProcessAccounting.Proofs.Text.Numeral
import ProcessAccounting.Proofs.Text.Quoted
import ProcessAccounting.Proofs.Text.Lossy
import ProcessAccounting.Proofs.Text.Utf8
import ProcessAccounting.Proofs.Text.Words
import ProcessAccounting.Proofs.Text.Trimming
import ProcessAccounting.Proofs.Text.Separators
import ProcessAccounting.Proofs.Text.Lines
import ProcessAccounting.Proofs.Snapshot.Table
import ProcessAccounting.Proofs.Proc.Access
import ProcessAccounting.Proofs.Proc.CommandLine
import ProcessAccounting.Proofs.Proc.StatLine
import ProcessAccounting.Proofs.Proc.Messages
import ProcessAccounting.Proofs.Proc.Grammar
import ProcessAccounting.Proofs.Proc.StatFile
import ProcessAccounting.Proofs.Proc.Truncation
import ProcessAccounting.Proofs.Proc.Scan
import ProcessAccounting.Proofs.Proc.Denial
import ProcessAccounting.Proofs.Proc.Units
import ProcessAccounting.Proofs.Proc.Scripted
import ProcessAccounting.Proofs.Proc.Reparenting
import ProcessAccounting.Proofs.Proc.Openings
import ProcessAccounting.Proofs.Proc.Attempts
import ProcessAccounting.Proofs.Proc.Independence
import ProcessAccounting.Proofs.Proc.Records
import ProcessAccounting.Proofs.Proc.ListingOrder
import ProcessAccounting.Proofs.Monitor.Run
import ProcessAccounting.Proofs.Monitor.History
import ProcessAccounting.Proofs.Monitor.Outsiders
import ProcessAccounting.Proofs.Monitor.Ages
import ProcessAccounting.Proofs.Monitor.Usage
import ProcessAccounting.Proofs.Accountant.Run
import ProcessAccounting.Proofs.Accountant.Rooted
import ProcessAccounting.Proofs.Accountant.ListingOrder
import ProcessAccounting.Proofs.Accountant.Units
import ProcessAccounting.Proofs.Accountant.Table
import ProcessAccounting.Proofs.Registry
import ProcessAccounting.Proofs.Platform
