import PageObjects.Browser.Rehearsal
import PageObjects.Component.DatePicker
import PageObjects.Component.Dialog
import PageObjects.Component.Editor
import PageObjects.Component.MaskedInput
import PageObjects.Component.Select
import PageObjects.Component.Tabs
import PageObjects.Component.Toast
import PageObjects.Locator.Json
import PageObjects.Page.Launch
import PageObjects.Page.Storage
import PageObjects.Page.Table
import PageObjects.Proofs.Action.Decision
import PageObjects.Proofs.Component.Picking
import PageObjects.Proofs.Component.Selecting
import PageObjects.Proofs.Markup.Lexing
import PageObjects.Proofs.Markup.Order
import PageObjects.Proofs.Markup.Reading
import PageObjects.Proofs.Markup.Rereading
import PageObjects.Proofs.Markup.Writing
import PageObjects.Proofs.Mask.Fitting
import PageObjects.Proofs.Memory.Agreement
import PageObjects.Proofs.Memory.Departure
import PageObjects.Proofs.Memory.Failure
import PageObjects.Proofs.Memory.Members
import PageObjects.Proofs.Memory.Names
import PageObjects.Proofs.Memory.Reloading
import PageObjects.Proofs.Memory.Stretch
import PageObjects.Proofs.Page.Cookies
import PageObjects.Proofs.Page.Destination
import PageObjects.Proofs.Page.Launching
import PageObjects.Proofs.Page.Naming
import PageObjects.Proofs.Page.Toasts
import PageObjects.Proofs.Page.Windows
import PageObjects.Proofs.Recovery.Attempts
import PageObjects.Proofs.Recovery.Clicks
import PageObjects.Proofs.Settings.Overriding
import PageObjects.Proofs.Table.Indexing
import PageObjects.Proofs.Table.Literals
import PageObjects.Proofs.Table.Missing
import PageObjects.Proofs.Table.Search
import PageObjects.Proofs.Table.Clicking
import PageObjects.Proofs.Table.Tracking
import PageObjects.Proofs.Url.Values
import PageObjects.Settings.File
