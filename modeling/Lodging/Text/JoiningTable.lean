/-!
# Joining letters

Unicode data on letters that are joined in writing. Each word is the first character of a run and the
kind of all its characters: `R` and `L` join to one side, `D` to both, `T` is passed over, `U` joins
to nothing. Beside it stand the borders of the combining marks.
-/

namespace Lodging.Text

def joiningData : String :=
  "0:U 300:T 371:U 483:T 48B:U 591:T 5BE:U 5BF:T 5C0:U 5C1:T 5C3:U 5C4:T 5C6:U 5C7:T 5D0:U 610:T
  61B:U 620:D 621:U 622:R 626:D 627:R 628:D 629:R 62A:D 62F:R 633:D 640:C 641:D 648:R 649:D 64B:T
  660:U 66E:D 670:T 671:R 674:U 679:D 688:R 69A:D 6C0:R 6C1:D 6C3:R 6CC:D 6CD:R 6CE:D 6CF:R 6D0:D
  6D2:R 6D4:U 6D5:R 6D6:T 6DE:U 6DF:T 6E5:U 6E7:T 6E9:U 6EA:T 6EE:R 6F0:U 6FA:D 6FD:U 6FF:D 700:U
  710:R 711:T 712:D 715:R 71A:D 71E:R 71F:D 728:R 729:D 72A:R 72B:D 72C:R 72D:D 72F:R 730:T 74D:R
  74E:D 759:R 75C:D 76B:R 76D:D 771:R 772:D 773:R 775:D 778:R 77A:D 780:U 7A6:T 7B1:U 7CA:D 7EB:T
  7F4:U 7FA:C 7FD:T 7FE:U 816:T 81A:U 81B:T 824:U 825:T 828:U 829:T 830:U 840:R 841:D 846:R 848:D
  849:R 84A:D 854:R 855:D 856:R 859:T 85E:U 860:D 861:U 862:D 866:U 867:R 868:D 869:R 883:C 886:D
  887:U 889:D 88E:R 88F:D 897:T 8A0:D 8AA:R 8AD:U 8AE:R 8AF:D 8B1:R 8B3:D 8B9:R 8BA:D 8C9:U 8CA:T
  903:U 93A:T 93B:U 93C:T 93D:U 941:T 949:U 94D:T 94E:U 951:T 960:U 962:T 964:U 981:T 982:U 9BC:T
  9BD:U 9C1:T 9C7:U 9CD:T 9CE:U 9E2:T 9E6:U 9FE:T A03:U A3C:T A3E:U A41:T A5C:U A70:T A72:U A75:T
  A76:U A81:T A83:U ABC:T ABD:U AC1:T AC9:U ACD:T AD0:U AE2:T AE6:U AFA:T B02:U B3C:T B3D:U B3F:T
  B40:U B41:T B47:U B4D:T B57:U B62:T B66:U B82:T B83:U BC0:T BC1:U BCD:T BD0:U C00:T C01:U C04:T
  C05:U C3C:T C3D:U C3E:T C41:U C46:T C58:U C62:T C66:U C81:T C82:U CBC:T CBD:U CBF:T CC0:U CC6:T
  CC7:U CCC:T CD5:U CE2:T CE6:U D00:T D02:U D3B:T D3D:U D41:T D46:U D4D:T D4E:U D62:T D66:U D81:T
  D82:U DCA:T DCF:U DD2:T DD8:U E31:T E32:U E34:T E3F:U E47:T E4F:U EB1:T EB2:U EB4:T EBD:U EC8:T
  ED0:U F18:T F1A:U F35:T F36:U F37:T F38:U F39:T F3A:U F71:T F7F:U F80:T F85:U F86:T F88:U F8D:T
  FBE:U FC6:T FC7:U 102D:T 1031:U 1032:T 1038:U 1039:T 103B:U 103D:T 103F:U 1058:T 105A:U 105E:T
  1061:U 1071:T 1075:U 1082:T 1083:U 1085:T 1087:U 108D:T 108E:U 109D:T 109E:U 135D:T 1360:U
  1712:T 1715:U 1732:T 1734:U 1752:T 1760:U 1772:T 1780:U 17B7:T 17BE:U 17C6:T 17C7:U 17C9:T
  17D4:U 17DD:T 17E0:U 1807:D 1808:U 180A:C 1810:U 1820:D 1880:U 1885:T 1887:D 18A9:T 18AA:D
  18B0:U 1920:T 1923:U 1927:T 1929:U 1932:T 1933:U 1939:T 1940:U 1A17:T 1A19:U 1A1B:T 1A1E:U
  1A56:T 1A57:U 1A58:T 1A61:U 1A62:T 1A63:U 1A65:T 1A6D:U 1A73:T 1A80:U 1AB0:T 1B04:U 1B34:T
  1B35:U 1B36:T 1B3B:U 1B3C:T 1B3D:U 1B42:T 1B43:U 1B6B:T 1B74:U 1B80:T 1B82:U 1BA2:T 1BA6:U
  1BA8:T 1BAA:U 1BAB:T 1BAE:U 1BE6:T 1BE7:U 1BE8:T 1BEA:U 1BED:T 1BEE:U 1BEF:T 1BF2:U 1C2C:T
  1C34:U 1C36:T 1C3B:U 1CD0:T 1CD3:U 1CD4:T 1CE1:U 1CE2:T 1CE9:U 1CED:T 1CEE:U 1CF4:T 1CF5:U
  1CF8:T 1CFA:U 1DC0:T 1E01:U 200D:C 2010:U 20D0:T 2104:U 2CEF:T 2CF3:U 2D7F:T 2D80:U 2DE0:T
  2E00:U 302A:T 302E:U 3099:T 309D:U A66F:T A673:U A674:T A67E:U A69E:T A6A0:U A6F0:T A6F2:U
  A802:T A803:U A806:T A807:U A80B:T A80C:U A825:T A827:U A82C:T A830:U A840:D A872:L A873:U
  A8C4:T A8CE:U A8E0:T A8F2:U A8FF:T A900:U A926:T A92E:U A947:T A952:U A980:T A983:U A9B3:T
  A9B4:U A9B6:T A9BA:U A9BC:T A9BE:U A9E5:T A9E6:U AA29:T AA2F:U AA31:T AA33:U AA35:T AA40:U
  AA43:T AA44:U AA4C:T AA4D:U AA7C:T AA7D:U AAB0:T AAB1:U AAB2:T AAB5:U AAB7:T AAB9:U AABE:T
  AAC0:U AAC1:T AAC2:U AAEC:T AAEE:U AAF6:T AB01:U ABE5:T ABE6:U ABE8:T ABE9:U ABED:T ABF0:U
  FB1E:T FBB2:U FE20:T FE45:U 101FD:T 10280:U 102E0:T 102E1:U 10376:T 10380:U 10A01:T 10A10:U
  10A38:T 10A40:U 10AC0:D 10AC5:R 10AC6:U 10AC7:R 10AC8:U 10AC9:R 10ACB:U 10ACD:L 10ACE:R 10AD3:D
  10AD7:L 10AD8:D 10ADD:R 10ADE:D 10AE1:R 10AE2:U 10AE4:R 10AE5:T 10AEB:D 10AEF:R 10AF0:U 10B80:D
  10B81:R 10B82:D 10B83:R 10B86:D 10B89:R 10B8A:D 10B8C:R 10B8D:D 10B8E:R 10B90:D 10B91:R 10B99:U
  10BA9:R 10BAD:D 10BAF:U 10D00:L 10D01:D 10D22:R 10D23:D 10D24:T 10D30:U 10D69:T 10D6E:U 10EAB:T
  10EAD:U 10EC2:R 10EC3:D 10EC5:U 10EC6:D 10ED0:U 10EFA:T 10F00:U 10F30:D 10F33:R 10F34:D 10F45:U
  10F46:T 10F51:D 10F54:R 10F55:U 10F70:D 10F74:R 10F76:D 10F82:T 10F86:U 10FB0:D 10FB1:U 10FB2:D
  10FB4:R 10FB7:U 10FB8:D 10FB9:R 10FBB:D 10FBD:R 10FBE:D 10FC0:U 10FC1:D 10FC2:R 10FC4:D 10FC5:U
  10FC9:R 10FCA:D 10FCB:L 10FE0:U 11001:T 11002:U 11038:T 11047:U 11070:T 11071:U 11073:T 11075:U
  1107F:T 11082:U 110B3:T 110B7:U 110B9:T 110BB:U 110C2:T 110D0:U 11100:T 11103:U 11127:T 1112C:U
  1112D:T 11136:U 11173:T 11174:U 11180:T 11182:U 111B6:T 111BF:U 111C9:T 111CD:U 111CF:T 111D0:U
  1122F:T 11232:U 11234:T 11235:U 11236:T 11238:U 1123E:T 1123F:U 11241:T 11280:U 112DF:T 112E0:U
  112E3:T 112F0:U 11300:T 11302:U 1133B:T 1133D:U 11340:T 11341:U 11366:T 11380:U 113BB:T 113C2:U
  113CE:T 113CF:U 113D0:T 113D1:U 113D2:T 113D3:U 113E1:T 11400:U 11438:T 11440:U 11442:T 11445:U
  11446:T 11447:U 1145E:T 1145F:U 114B3:T 114B9:U 114BA:T 114BB:U 114BF:T 114C1:U 114C2:T 114C4:U
  115B2:T 115B8:U 115BC:T 115BE:U 115BF:T 115C1:U 115DC:T 11600:U 11633:T 1163B:U 1163D:T 1163E:U
  1163F:T 11641:U 116AB:T 116AC:U 116AD:T 116AE:U 116B0:T 116B6:U 116B7:T 116B8:U 1171D:T 1171E:U
  1171F:T 11720:U 11722:T 11726:U 11727:T 11730:U 1182F:T 11838:U 11839:T 1183B:U 1193B:T 1193D:U
  1193E:T 1193F:U 11943:T 11944:U 119D4:T 119DC:U 119E0:T 119E1:U 11A01:T 11A0B:U 11A33:T 11A39:U
  11A3B:T 11A3F:U 11A47:T 11A50:U 11A51:T 11A57:U 11A59:T 11A5C:U 11A8A:T 11A97:U 11A98:T 11A9A:U
  11B60:T 11B61:U 11B62:T 11B65:U 11B66:T 11B67:U 11C30:T 11C3E:U 11C3F:T 11C40:U 11C92:T 11CA9:U
  11CAA:T 11CB1:U 11CB2:T 11CB4:U 11CB5:T 11D00:U 11D31:T 11D46:U 11D47:T 11D50:U 11D90:T 11D93:U
  11D95:T 11D96:U 11D97:T 11D98:U 11EF3:T 11EF5:U 11F00:T 11F02:U 11F36:T 11F3E:U 11F40:T 11F41:U
  11F42:T 11F43:U 11F5A:T 11FB0:U 13440:T 13441:U 13447:T 13460:U 1611E:T 1612A:U 1612D:T 16130:U
  16AF0:T 16AF5:U 16B30:T 16B37:U 16F4F:T 16F50:U 16F8F:T 16F93:U 16FE4:T 16FF0:U 1BC9D:T 1BC9F:U
  1CF00:T 1CF50:U 1D167:T 1D16A:U 1D17B:T 1D183:U 1D185:T 1D18C:U 1D1AA:T 1D1AE:U 1D242:T 1D245:U
  1DA00:T 1DA37:U 1DA3B:T 1DA6D:U 1DA75:T 1DA76:U 1DA84:T 1DA85:U 1DA9B:T 1DF00:U 1E000:T 1E100:U
  1E130:T 1E137:U 1E2AE:T 1E2C0:U 1E2EC:T 1E2F0:U 1E4EC:T 1E4F0:U 1E5EE:T 1E5F0:U 1E6E3:T 1E6E4:U
  1E6E6:T 1E6E7:U 1E6EE:T 1E6F0:U 1E6F5:T 1E6FE:U 1E8D0:T 1E922:D 1E944:T 1E950:U"

/-- Runs of characters that are combining marks (`M`) and that are not (`O`). -/
def markData : String :=
  "0:O 300:M 371:O 483:M 48B:O 591:M 5BE:O 5BF:M 5C0:O 5C1:M 5C3:O 5C4:M 5C6:O 5C7:M 5D0:O 610:M
  61B:O 64B:M 660:O 670:M 671:O 6D6:M 6DE:O 6DF:M 6E5:O 6E7:M 6E9:O 6EA:M 6EE:O 711:M 712:O 730:M
  74D:O 7A6:M 7B1:O 7EB:M 7F4:O 7FD:M 7FE:O 816:M 81A:O 81B:M 824:O 825:M 828:O 829:M 830:O 859:M
  85E:O 897:M 8A0:O 8CA:M 904:O 93A:M 93D:O 93E:M 950:O 951:M 960:O 962:M 964:O 981:M 985:O 9BC:M
  9BD:O 9BE:M 9CE:O 9D7:M 9E0:O 9E2:M 9E6:O 9FE:M A05:O A3C:M A5C:O A70:M A72:O A75:M A76:O A81:M
  A85:O ABC:M ABD:O ABE:M AD0:O AE2:M AE6:O AFA:M B05:O B3C:M B3D:O B3E:M B5F:O B62:M B66:O B82:M
  B83:O BBE:M BD0:O BD7:M BE6:O C00:M C05:O C3C:M C3D:O C3E:M C58:O C62:M C66:O C81:M C84:O CBC:M
  CBD:O CBE:M CDC:O CE2:M CE6:O CF3:M D04:O D3B:M D3D:O D3E:M D4E:O D57:M D58:O D62:M D66:O D81:M
  D85:O DCA:M DE6:O DF2:M DF4:O E31:M E32:O E34:M E3F:O E47:M E4F:O EB1:M EB2:O EB4:M EBD:O EC8:M
  ED0:O F18:M F1A:O F35:M F36:O F37:M F38:O F39:M F3A:O F3E:M F40:O F71:M F85:O F86:M F88:O F8D:M
  FBE:O FC6:M FC7:O 102B:M 103F:O 1056:M 105A:O 105E:M 1061:O 1062:M 1065:O 1067:M 106E:O 1071:M
  1075:O 1082:M 108E:O 108F:M 1090:O 109A:M 109E:O 135D:M 1360:O 1712:M 171F:O 1732:M 1735:O
  1752:M 1760:O 1772:M 1780:O 17B6:M 17D4:O 17DD:M 17E0:O 1885:M 1887:O 18A9:M 18AA:O 1920:M
  1940:O 1A17:M 1A1E:O 1A55:M 1A80:O 1AB0:M 1B05:O 1B34:M 1B45:O 1B6B:M 1B74:O 1B80:M 1B83:O
  1BA1:M 1BAE:O 1BE6:M 1BFC:O 1C24:M 1C3B:O 1CD0:M 1CD3:O 1CD4:M 1CE9:O 1CED:M 1CEE:O 1CF4:M
  1CF5:O 1CF7:M 1CFA:O 1DC0:M 1E01:O 20D0:M 2104:O 2CEF:M 2CF3:O 2D7F:M 2D80:O 2DE0:M 2E00:O
  302A:M 3030:O 3099:M 309D:O A66F:M A673:O A674:M A67E:O A69E:M A6A0:O A6F0:M A6F2:O A802:M
  A803:O A806:M A807:O A80B:M A80C:O A823:M A828:O A82C:M A830:O A880:M A882:O A8B4:M A8CE:O
  A8E0:M A8F2:O A8FF:M A900:O A926:M A92E:O A947:M A95F:O A980:M A984:O A9B3:M A9C1:O A9E5:M
  A9E6:O AA29:M AA40:O AA43:M AA44:O AA4C:M AA50:O AA7B:M AA7E:O AAB0:M AAB1:O AAB2:M AAB5:O
  AAB7:M AAB9:O AABE:M AAC0:O AAC1:M AAC2:O AAEB:M AAF0:O AAF5:M AB01:O ABE3:M ABEB:O ABEC:M
  ABF0:O FB1E:M FBB2:O FE20:M FE45:O 101FD:M 10280:O 102E0:M 102E1:O 10376:M 10380:O 10A01:M
  10A10:O 10A38:M 10A40:O 10AE5:M 10AEB:O 10D24:M 10D30:O 10D69:M 10D6E:O 10EAB:M 10EAD:O 10EFA:M
  10F00:O 10F46:M 10F51:O 10F82:M 10F86:O 11000:M 11003:O 11038:M 11047:O 11070:M 11071:O 11073:M
  11075:O 1107F:M 11083:O 110B0:M 110BB:O 110C2:M 110D0:O 11100:M 11103:O 11127:M 11136:O 11145:M
  11147:O 11173:M 11174:O 11180:M 11183:O 111B3:M 111C1:O 111C9:M 111CD:O 111CE:M 111D0:O 1122C:M
  11238:O 1123E:M 1123F:O 11241:M 11280:O 112DF:M 112F0:O 11300:M 11305:O 1133B:M 1133D:O 1133E:M
  11350:O 11357:M 1135D:O 11362:M 11380:O 113B8:M 113D1:O 113D2:M 113D3:O 113E1:M 11400:O 11435:M
  11447:O 1145E:M 1145F:O 114B0:M 114C4:O 115AF:M 115C1:O 115DC:M 11600:O 11630:M 11641:O 116AB:M
  116B8:O 1171D:M 11730:O 1182C:M 1183B:O 11930:M 1193F:O 11940:M 11941:O 11942:M 11944:O 119D1:M
  119E1:O 119E4:M 11A00:O 11A01:M 11A0B:O 11A33:M 11A3A:O 11A3B:M 11A3F:O 11A47:M 11A50:O 11A51:M
  11A5C:O 11A8A:M 11A9A:O 11B60:M 11BC0:O 11C2F:M 11C40:O 11C92:M 11D00:O 11D31:M 11D46:O 11D47:M
  11D50:O 11D8A:M 11D98:O 11EF3:M 11EF7:O 11F00:M 11F02:O 11F03:M 11F04:O 11F34:M 11F43:O 11F5A:M
  11FB0:O 13440:M 13441:O 13447:M 13460:O 1611E:M 16130:O 16AF0:M 16AF5:O 16B30:M 16B37:O 16F4F:M
  16F50:O 16F51:M 16F93:O 16FE4:M 16FF2:O 1BC9D:M 1BC9F:O 1CF00:M 1CF50:O 1D165:M 1D16A:O 1D16D:M
  1D183:O 1D185:M 1D18C:O 1D1AA:M 1D1AE:O 1D242:M 1D245:O 1DA00:M 1DA37:O 1DA3B:M 1DA6D:O 1DA75:M
  1DA76:O 1DA84:M 1DA85:O 1DA9B:M 1DF00:O 1E000:M 1E100:O 1E130:M 1E137:O 1E2AE:M 1E2C0:O 1E2EC:M
  1E2F0:O 1E4EC:M 1E4F0:O 1E5EE:M 1E5F0:O 1E6E3:M 1E6E4:O 1E6E6:M 1E6E7:O 1E6EE:M 1E6F0:O 1E6F5:M
  1E6FE:O 1E8D0:M 1E922:O 1E944:M 1E94B:O"

end Lodging.Text
